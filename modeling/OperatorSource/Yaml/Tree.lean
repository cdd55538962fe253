import OperatorSource.Yaml.Fault
import OperatorSource.Yaml.Node.OfTokens

/-!
# Unfolded documents

For reading, a document is unfolded into a tree: every alias is replaced by the node it stands for.
Since a node may hold an alias to itself, two limits end the unfolding: collections may be nested
128 deep, and there may be a hundred aliases for each unit of the size of the document. Where a
limit is reached, the tree holds that limit instead of a node, and nothing behind it is unfolded.
-/

namespace OperatorSource.Yaml

/-- A node of an unfolded document. An entry of a mapping also holds the text of its key, if the key
is written as a scalar in its place. -/
inductive Tree where
  | scalar (mark : Mark) (tag : Option Tag) (style : ScalarStyle) (text : String)
  | sequence (mark : Mark) (tag : Option Tag) (items : List Tree)
  | mapping (mark : Mark) (tag : Option Tag) (entries : List (Option String × Tree × Tree))
  | limited (reached : Limit)

structure Unfolding where
  /-- The number of aliases replaced so far. -/
  aliases : Nat := 0
  /-- The limit that was reached. -/
  limit : Option Limit := none

namespace Unfolding

def stopAt (limit : Limit) : StateM Unfolding Tree := do
  modify (fun unfolding => { unfolding with limit := some limit })
  return .limited limit

/-- The last node with an anchor number, in the order in which nodes begin. -/
def target? (anchored : List (Nat × Node)) (number : Nat) : Option Node :=
  anchored.foldl (fun found entry => if entry.1 = number then some entry.2 else found) none

def keyText? : Node → Option String
  | .scalar _ _ _ _ text => some text
  | _ => none

/-- The node in a place, with an alias there replaced; none when there are too many aliases. -/
def resolve? (anchored : List (Nat × Node)) (most : Nat) (node : Node) :
    StateM Unfolding (Option Node) := do
  match node with
  | .alias _ number =>
    modify (fun unfolding => { unfolding with aliases := unfolding.aliases + 1 })
    if most < (← get).aliases then return none else return target? anchored number
  | written => return some written

/-- Unfolds a node; `depth` more collections may be opened. -/
def unfold (anchored : List (Nat × Node)) (most : Nat) : (depth : Nat) → Node →
    StateM Unfolding Tree
  | depth, node => do
    match (← get).limit with
    | some limit => return .limited limit
    | none =>
      match ← resolve? anchored most node, depth with
      | some (.scalar mark _ tag style text), _ => return .scalar mark tag style text
      | some (.sequence mark _ _ _), 0 | some (.mapping mark _ _ _), 0 => stopAt (.depth mark)
      | some (.sequence mark _ tag items), depth + 1 =>
        return .sequence mark tag (← items.mapM (unfold anchored most depth))
      | some (.mapping mark _ tag entries), depth + 1 =>
        return .mapping mark tag (← entries.mapM (fun entry => do
          let key ← unfold anchored most depth entry.1
          let value ← unfold anchored most depth entry.2
          return (keyText? entry.1, key, value)))
      | some (.alias _ _), _ | none, _ => stopAt .repetition

end Unfolding

namespace Document

/-- The unfolded tree of a document. A document without a root reads as an empty scalar at its
end. -/
def unfold (document : Document) : Tree :=
  match document.root with
  | none => .scalar document.stop none .plain ""
  | some root => ((Unfolding.unfold root.anchored (100 * root.size) 128 root).run {}).1

end Document

namespace Tree

mutual

/-- Comparison of two trees, constructor by constructor. -/
def same : (left right : Tree) → Bool
  | .scalar mark tag style text, .scalar otherMark otherTag otherStyle otherText =>
    mark == otherMark && tag == otherTag && style == otherStyle && text == otherText
  | .sequence mark tag items, .sequence otherMark otherTag otherItems =>
    mark == otherMark && tag == otherTag && sameItems items otherItems
  | .mapping mark tag entries, .mapping otherMark otherTag otherEntries =>
    mark == otherMark && tag == otherTag && sameEntries entries otherEntries
  | .limited reached, .limited other => reached == other
  | _, _ => false

/-- Comparison of two lists of trees, member by member. -/
def sameItems : (left right : List Tree) → Bool
  | [], [] => true
  | tree :: rest, other :: others => same tree other && sameItems rest others
  | _, _ => false

/-- Comparison of the entries of two mappings, entry by entry. -/
def sameEntries : (left right : List (Option String × Tree × Tree)) → Bool
  | [], [] => true
  | (name, key, value) :: rest, (otherName, otherKey, otherValue) :: others =>
    name == otherName && same key otherKey && same value otherValue && sameEntries rest others
  | _, _ => false

end
mutual

theorem same_self : (tree : Tree) → same tree tree = true
  | .scalar _ _ _ _ | .limited _ => by simp [same]
  | .sequence _ _ items => by simp [same, sameItems_self items]
  | .mapping _ _ entries => by simp [same, sameEntries_self entries]

theorem sameItems_self : (items : List Tree) → sameItems items items = true
  | [] => rfl
  | tree :: rest => by simp [sameItems, same_self tree, sameItems_self rest]

theorem sameEntries_self : (entries : List (Option String × Tree × Tree)) →
    sameEntries entries entries = true
  | [] => rfl
  | (_, key, value) :: rest => by
    simp [sameEntries, same_self key, same_self value, sameEntries_self rest]

end

mutual

theorem eq_of_same (left right : Tree) (equal : same left right = true) : left = right := by
  cases left <;> cases right <;> simp_all [same]
  case sequence items _ _ other => exact eq_of_sameItems items other equal.2
  case mapping entries _ _ other => exact eq_of_sameEntries entries other equal.2

theorem eq_of_sameItems (left right : List Tree) (equal : sameItems left right = true) :
    left = right := by
  cases left with
  | nil => cases right <;> simp_all [sameItems]
  | cons tree rest =>
    cases right with
    | nil => simp [sameItems] at equal
    | cons other others =>
      simp only [sameItems, Bool.and_eq_true] at equal
      rw [eq_of_same tree other equal.1, eq_of_sameItems rest others equal.2]

theorem eq_of_sameEntries (left right : List (Option String × Tree × Tree))
    (equal : sameEntries left right = true) : left = right := by
  cases left with
  | nil => cases right <;> simp_all [sameEntries]
  | cons entry rest =>
    cases right with
    | nil => simp [sameEntries] at equal
    | cons other others =>
      obtain ⟨name, key, value⟩ := entry
      obtain ⟨otherName, otherKey, otherValue⟩ := other
      simp only [sameEntries, Bool.and_eq_true, beq_iff_eq] at equal
      rw [equal.1.1.1, eq_of_same key otherKey equal.1.1.2, eq_of_same value otherValue equal.1.2,
        eq_of_sameEntries rest others equal.2]

end

instance : DecidableEq Tree := fun left right =>
  decidable_of_iff (same left right = true)
    ⟨eq_of_same left right, fun equal => equal ▸ same_self left⟩

def ofText (text : String) : Except Failure Tree :=
  match Document.ofText? text with
  | none => .error .malformed
  | some document => .ok document.unfold

end Tree

end OperatorSource.Yaml
