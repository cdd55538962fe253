import OperatorSource.Yaml.Token.Basic

/-!
# Nodes of a document

A document is a tree of scalars, sequences and mappings, with aliases in places where an anchored
node is to be repeated. An anchor is kept as a number; when several nodes bear the same number, the
one that begins last is meant. A document without any content has no root.
-/

namespace OperatorSource.Yaml

/-- The tag of a node, as far as reading depends on it. -/
inductive Tag where
  /-- A tag that begins with an exclamation mark: what is behind the mark, or the mark if nothing
  is; no name if its octets are not a text. -/
  | custom (name : Option String)
  | null
  | boolean
  | integer
  | float
  /-- Any other tag: its node is read as untyped text or as the collection it is. -/
  | other
  deriving DecidableEq

inductive Node where
  | scalar (mark : Mark) (anchor : Option Nat) (tag : Option Tag) (style : ScalarStyle)
      (text : String)
  | sequence (mark : Mark) (anchor : Option Nat) (tag : Option Tag) (items : List Node)
  | mapping (mark : Mark) (anchor : Option Nat) (tag : Option Tag) (entries : List (Node × Node))
  | alias (mark : Mark) (target : Nat)

/-- A document: its root, if it has one, and the position of its end. -/
structure Document where
  root : Option Node
  stop : Mark

/-- The text that some octets encode, if they encode one. -/
def textOfOctets? (octets : List UInt8) : Option String :=
  String.fromUTF8? ⟨octets.toArray⟩

namespace Tag

/-- The tag that some octets write out. -/
def ofOctets (octets : List UInt8) : Tag :=
  match octets with
  | [] => .other
  | first :: rest =>
    if first = '!'.toNat.toUInt8 then
      .custom (textOfOctets? (if rest.isEmpty then octets else rest))
    else
      match textOfOctets? octets with
      | some "tag:yaml.org,2002:null" => .null
      | some "tag:yaml.org,2002:bool" => .boolean
      | some "tag:yaml.org,2002:int" => .integer
      | some "tag:yaml.org,2002:float" => .float
      | _ => .other

end Tag

namespace Node

def mark : Node → Mark
  | .scalar mark _ _ _ _ | .sequence mark _ _ _ | .mapping mark _ _ _ | .alias mark _ => mark

/-- An empty plain scalar, where a value is left out. -/
def empty (mark : Mark) : Node := .scalar mark none none .plain ""

mutual

/-- The nodes that bear an anchor, with its number, in the order in which they begin. -/
def anchored : Node → List (Nat × Node)
  | .scalar mark anchor tag style text =>
    anchor.toList.map (fun number => (number, .scalar mark anchor tag style text))
  | .sequence mark anchor tag items =>
    anchor.toList.map (fun number => (number, .sequence mark anchor tag items)) ++
      anchoredItems items
  | .mapping mark anchor tag entries =>
    anchor.toList.map (fun number => (number, .mapping mark anchor tag entries)) ++
      anchoredEntries entries
  | .alias _ _ => []

def anchoredItems : List Node → List (Nat × Node)
  | [] => []
  | item :: rest => item.anchored ++ anchoredItems rest

def anchoredEntries : List (Node × Node) → List (Nat × Node)
  | [] => []
  | (key, value) :: rest => key.anchored ++ value.anchored ++ anchoredEntries rest

end

mutual

/-- The size of a node: one for a scalar or an alias, and two more than its contents for a
collection, which has a beginning and an end. -/
def size : Node → Nat
  | .scalar _ _ _ _ _ | .alias _ _ => 1
  | .sequence _ _ _ items => sizeOfItems items + 2
  | .mapping _ _ _ entries => sizeOfEntries entries + 2

def sizeOfItems : List Node → Nat
  | [] => 0
  | item :: rest => item.size + sizeOfItems rest

def sizeOfEntries : List (Node × Node) → Nat
  | [] => 0
  | (key, value) :: rest => key.size + value.size + sizeOfEntries rest

end

end Node

end OperatorSource.Yaml
