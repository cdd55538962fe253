import OperatorSource.Fragment.Basic

/-!
# Lines of a fragment

Every fragment occupies a list of lines, relative to the indentation of its parent. A line is an
entry of the list: a text that itself holds a line feed stays one entry, is indented once and gets
one dot or semicolon. The rendered text is the lines in order, each followed by a line feed.

Pieces that continue one line are spliced: the first line of the later piece goes behind the last
line of the earlier one. The helper functions below state the other rules.
-/

namespace OperatorSource

/-- The text of some lines, each followed by a line feed. -/
def unlines (lines : List String) : String := String.join (lines.map (· ++ "\n"))

theorem unlines_nil : unlines [] = "" := rfl

theorem unlines_cons (line : String) (lines : List String) :
    unlines (line :: lines) = line ++ "\n" ++ unlines lines := by
  simp [unlines]

theorem unlines_append (first second : List String) :
    unlines (first ++ second) = unlines first ++ unlines second := by
  induction first with
  | nil => simp [unlines_nil]
  | cons line rest ih => simp [unlines_cons, ih, String.append_assoc]

namespace Fragment

/-- A line moved one level to the right; an empty line stays empty, so that it has no trailing
blanks. -/
def indent (line : String) : String := if line = "" then line else "  " ++ line

/-- Continues the last of some lines by the first of some more. -/
def splice : (lines more : List String) → List String
  | [], more => more
  | [last], [] => [last]
  | [last], first :: rest => (last ++ first) :: rest
  | head :: next :: rest, more => head :: splice (next :: rest) more

/-- Splices pieces behind a beginning, from left to right. -/
def spliceAll (start : List String) (pieces : List (List String)) : List String :=
  pieces.foldl splice start

/-- Ends the last line by a semicolon; where there is no line, the semicolon is one. -/
def terminate (lines : List String) : List String := splice lines [";"]

/-- A later link of a chain: its first line begins with a dot, also if there is no first line. -/
def dotted : List String → List String
  | [] => ["."]
  | head :: rest => ("." ++ head) :: rest

/-- The links of a chain, each after the first one dotted. -/
def chainLines : List (List String) → List String
  | [] => []
  | first :: later => first ++ (later.map dotted).flatten

/-- Pieces with a separator line between neighbours. -/
def separated (separator : String) (pieces : List (List String)) : List (List String) :=
  pieces.intersperse [separator]

mutual

/-- The lines that a fragment occupies, relative to the indentation of its parent. -/
def lines : Fragment → List String
  | .quotedInclude path => ["#include \"" ++ path ++ "\""]
  | .systemInclude path => ["#include <" ++ path ++ ">"]
  | .line text => [text]
  | .comment text => ["// " ++ text]
  | .statement inner => terminate inner.lines
  | .assignment target value => [target ++ " = " ++ value ++ ";"]
  | .block header body =>
    header.toList ++ ["\x7b"] ++ (linesOfEach body).flatten.map indent ++ ["\x7d"]
  | .call callee arguments =>
    splice (spliceAll [callee ++ "("] (separated ", " (linesOfEach arguments))) [")"]
  | .joined parts separator => spliceAll [""] (separated separator (linesOfEach parts))
  | .chain links => chainLines (linesOfEach links)
  | .group children => (linesOfEach children).flatten

def linesOfEach : List Fragment → List (List String)
  | [] => []
  | fragment :: rest => fragment.lines :: linesOfEach rest

end

theorem linesOfEach_eq_map (fragments : List Fragment) :
    linesOfEach fragments = fragments.map lines := by
  induction fragments with
  | nil => rfl
  | cons fragment rest ih => simp [linesOfEach, ih]

def render (fragment : Fragment) : String := unlines fragment.lines

def renderAll (fragments : List Fragment) : String := String.join (fragments.map render)

end Fragment

end OperatorSource
