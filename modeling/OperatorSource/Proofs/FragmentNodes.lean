import OperatorSource.Fragment.Basic
import Mathlib.Data.List.Basic

/-!
# Nodes of a fragment

What is said of all nodes of a fragment is said of the fragment itself and of all nodes of its
children.  A property of fragments is proved by induction, one case per kind of fragment, with the
property given for every child.
-/

namespace OperatorSource.Fragment

def children : Fragment → List Fragment
  | .quotedInclude _ | .systemInclude _ | .line _ | .comment _ | .assignment _ _ => []
  | .statement inner => [inner]
  | .block _ body => body
  | .call _ arguments => arguments
  | .joined parts _ => parts
  | .chain links => links
  | .group children => children

/-- The texts that a fragment holds itself, those of its children apart. -/
def texts : Fragment → List String
  | .quotedInclude path | .systemInclude path => [path]
  | .line text | .comment text => [text]
  | .assignment target value => [target, value]
  | .block header _ => header.toList
  | .call callee _ => [callee]
  | .joined _ separator => [separator]
  | .statement _ | .chain _ | .group _ => []

def assigned? : Fragment → Option String
  | .assignment target _ => some target
  | _ => none

mutual

/-- A fragment, its children, their children, and so on. -/
def nodes : Fragment → List Fragment
  | .quotedInclude path => [.quotedInclude path]
  | .systemInclude path => [.systemInclude path]
  | .line text => [.line text]
  | .comment text => [.comment text]
  | .assignment target value => [.assignment target value]
  | .statement inner => .statement inner :: inner.nodes
  | .block header body => .block header body :: nodesOfEach body
  | .call callee arguments => .call callee arguments :: nodesOfEach arguments
  | .joined parts separator => .joined parts separator :: nodesOfEach parts
  | .chain links => .chain links :: nodesOfEach links
  | .group children => .group children :: nodesOfEach children

def nodesOfEach : List Fragment → List Fragment
  | [] => []
  | fragment :: rest => fragment.nodes ++ nodesOfEach rest

end

theorem nodesOfEach_eq_flatMap (fragments : List Fragment) :
    nodesOfEach fragments = fragments.flatMap nodes := by
  induction fragments with
  | nil => rfl
  | cons fragment rest ih => rw [nodesOfEach, List.flatMap_cons, ih]

theorem nodes_eq (fragment : Fragment) :
    fragment.nodes = fragment :: fragment.children.flatMap nodes := by
  cases fragment <;> simp [nodes, children, nodesOfEach_eq_flatMap]

def AllNodes (property : Fragment → Prop) (fragment : Fragment) : Prop :=
  ∀ node ∈ fragment.nodes, property node

instance (property : Fragment → Prop) [DecidablePred property] (fragment : Fragment) :
    Decidable (AllNodes property fragment) :=
  inferInstanceAs (Decidable (∀ node ∈ fragment.nodes, property node))

section AllNodes

variable {property : Fragment → Prop} {fragment : Fragment}

theorem AllNodes.self (all : AllNodes property fragment) : property fragment :=
  all fragment (by rw [nodes_eq]; exact List.mem_cons_self)

theorem AllNodes.child (all : AllNodes property fragment) {child : Fragment}
    (member : child ∈ fragment.children) : AllNodes property child := by
  intro node inChild
  apply all node
  rw [nodes_eq]
  exact List.mem_cons_of_mem fragment (List.mem_flatMap_of_mem member inChild)

end AllNodes

section Induction

variable {motive : Fragment → Prop}

mutual

theorem induct_children
    (step : ∀ fragment, (∀ child ∈ fragment.children, motive child) → motive fragment) :
    (fragment : Fragment) → motive fragment
  | .quotedInclude _ | .systemInclude _ | .line _ | .comment _ | .assignment _ _ => step _ nofun
  | .statement inner => step _ (List.forall_mem_singleton.mpr (induct_children step inner))
  | .block _ body => step _ (induct_children_each step body)
  | .call _ arguments => step _ (induct_children_each step arguments)
  | .joined parts _ => step _ (induct_children_each step parts)
  | .chain links => step _ (induct_children_each step links)
  | .group children => step _ (induct_children_each step children)

theorem induct_children_each
    (step : ∀ fragment, (∀ child ∈ fragment.children, motive child) → motive fragment) :
    (fragments : List Fragment) → ∀ child ∈ fragments, motive child
  | [] => nofun
  | fragment :: rest =>
      List.forall_mem_cons.mpr ⟨induct_children step fragment, induct_children_each step rest⟩

end

/-- One case for each kind of fragment, with the motive given for every child. -/
@[induction_eliminator]
theorem induct (quotedInclude : ∀ path, motive (.quotedInclude path))
    (systemInclude : ∀ path, motive (.systemInclude path))
    (line : ∀ text, motive (.line text))
    (comment : ∀ text, motive (.comment text))
    (statement : ∀ inner, motive inner → motive (.statement inner))
    (assignment : ∀ target value, motive (.assignment target value))
    (block : ∀ header body, (∀ child ∈ body, motive child) → motive (.block header body))
    (call : ∀ callee arguments, (∀ child ∈ arguments, motive child) →
      motive (.call callee arguments))
    (joined : ∀ parts separator, (∀ child ∈ parts, motive child) →
      motive (.joined parts separator))
    (chain : ∀ links, (∀ child ∈ links, motive child) → motive (.chain links))
    (group : ∀ children, (∀ child ∈ children, motive child) → motive (.group children))
    (fragment : Fragment) : motive fragment := by
  refine induct_children (fun fragment holds => ?_) fragment
  cases fragment with
  | quotedInclude path => exact quotedInclude path
  | systemInclude path => exact systemInclude path
  | line text => exact line text
  | comment text => exact comment text
  | statement inner => exact statement inner (holds inner List.mem_cons_self)
  | assignment target value => exact assignment target value
  | block header body => exact block header body holds
  | call callee arguments => exact call callee arguments holds
  | joined parts separator => exact joined parts separator holds
  | chain links => exact chain links holds
  | group children => exact group children holds

end Induction

end OperatorSource.Fragment
