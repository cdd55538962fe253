/-!
# Fragments of source text

A generated source is first built as a tree of fragments, bottom-up, and turned into lines only at
the end. Every string in a fragment is kept exactly as it was given. Equality of fragments is
decidable: two fragments are equal when they have the same shape and hold the same strings.
-/

namespace OperatorSource

/-- One node of the tree of generated source. -/
inductive Fragment where
  /-- An include directive that names a file between double quotes. -/
  | quotedInclude (path : String)
  /-- An include directive that names a file between angle brackets. -/
  | systemInclude (path : String)
  /-- A single line, taken as it is; the empty line is a blank one. -/
  | line (text : String)
  /-- A line comment. -/
  | comment (text : String)
  /-- The inner fragment ended by a semicolon. -/
  | statement (inner : Fragment)
  /-- An assignment, ended by a semicolon. -/
  | assignment (target value : String)
  /-- A braced and indented body below an optional header line. -/
  | block (header : Option String) (body : List Fragment)
  /-- A call; its arguments may occupy several lines. -/
  | call (callee : String) (arguments : List Fragment)
  /-- Parts written one behind the other with a separator between them. -/
  | joined (parts : List Fragment) (separator : String)
  /-- A method chain with one link per line, each after the first begun by a dot. -/
  | chain (links : List Fragment)
  /-- Fragments below one another. -/
  | group (children : List Fragment)

namespace Fragment

def blank : Fragment := .line ""

/-- A string literal: the text between double quotes, otherwise untouched. -/
def quoted (text : String) : Fragment := .line ("\"" ++ text ++ "\"")

def lineStatement (text : String) : Fragment := .statement (.line text)

mutual

/-- Comparison of two fragments, constructor by constructor. -/
def same : (left right : Fragment) → Bool
  | .quotedInclude path, .quotedInclude other => path == other
  | .systemInclude path, .systemInclude other => path == other
  | .line text, .line other => text == other
  | .comment text, .comment other => text == other
  | .statement inner, .statement other => same inner other
  | .assignment target value, .assignment otherTarget otherValue =>
    target == otherTarget && value == otherValue
  | .block header body, .block otherHeader otherBody =>
    header == otherHeader && sameList body otherBody
  | .call callee arguments, .call otherCallee otherArguments =>
    callee == otherCallee && sameList arguments otherArguments
  | .joined parts separator, .joined otherParts otherSeparator =>
    separator == otherSeparator && sameList parts otherParts
  | .chain links, .chain otherLinks => sameList links otherLinks
  | .group children, .group otherChildren => sameList children otherChildren
  | _, _ => false

/-- Comparison of two lists of fragments, member by member. -/
def sameList : (left right : List Fragment) → Bool
  | [], [] => true
  | fragment :: rest, other :: others => same fragment other && sameList rest others
  | _, _ => false

end

mutual

theorem same_self : (fragment : Fragment) → same fragment fragment = true
  | .quotedInclude _ | .systemInclude _ | .line _ | .comment _ | .assignment _ _ => by simp [same]
  | .statement inner => by simp [same, same_self inner]
  | .block _ body => by simp [same, sameList_self body]
  | .call _ arguments => by simp [same, sameList_self arguments]
  | .joined parts _ => by simp [same, sameList_self parts]
  | .chain links => by simp [same, sameList_self links]
  | .group children => by simp [same, sameList_self children]

theorem sameList_self : (fragments : List Fragment) → sameList fragments fragments = true
  | [] => rfl
  | fragment :: rest => by simp [sameList, same_self fragment, sameList_self rest]

end

mutual

theorem eq_of_same (left right : Fragment) (equal : same left right = true) : left = right := by
  cases left <;> cases right <;> simp_all [same]
  case statement inner other => exact eq_of_same inner other equal
  case block body _ other => exact eq_of_sameList body other equal.2
  case call arguments _ other => exact eq_of_sameList arguments other equal.2
  case joined parts _ other _ => exact eq_of_sameList parts other equal.2
  case chain links other => exact eq_of_sameList links other equal
  case group children other => exact eq_of_sameList children other equal

theorem eq_of_sameList (left right : List Fragment) (equal : sameList left right = true) :
    left = right := by
  cases left with
  | nil => cases right <;> simp_all [sameList]
  | cons fragment rest =>
    cases right with
    | nil => simp [sameList] at equal
    | cons other others =>
      simp only [sameList, Bool.and_eq_true] at equal
      rw [eq_of_same fragment other equal.1, eq_of_sameList rest others equal.2]

end

instance : DecidableEq Fragment := fun left right =>
  decidable_of_iff (same left right = true)
    ⟨eq_of_same left right, fun equal => equal ▸ same_self left⟩

end Fragment

end OperatorSource
