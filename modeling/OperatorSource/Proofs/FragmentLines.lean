import OperatorSource.Fragment.Lines
import Mathlib.Data.List.Basic

/-!
# Lines of the common fragments

The lines of a fragment come from splicing, dotting, ending and indenting the lines of its parts.
Most fragments of a generated source have parts of one line, or a single part whose first and last
lines alone are touched.  This file gives the lines of such fragments outright.
-/

namespace OperatorSource.Fragment

theorem lines_line (text : String) : (Fragment.line text).lines = [text] := by
  rw [lines]

theorem lines_comment (text : String) : (Fragment.comment text).lines = ["// " ++ text] := by
  rw [lines]

theorem lines_blank : blank.lines = [""] := lines_line ""

theorem lines_quoted (text : String) : (quoted text).lines = ["\"" ++ text ++ "\""] := lines_line _

theorem splice_singleton_cons (line first : String) (rest : List String) :
    splice [line] (first :: rest) = (line ++ first) :: rest := by
  rw [splice]

theorem splice_concat_cons (lines : List String) (last first : String) (rest : List String) :
    splice (lines ++ [last]) (first :: rest) = lines ++ (last ++ first) :: rest := by
  induction lines with
  | nil => exact splice_singleton_cons last first rest
  | cons line lines ih =>
      cases lines with
      | nil => simp [splice]
      | cons next lines => simpa [splice] using ih

theorem lines_lineStatement (text : String) : (lineStatement text).lines = [text ++ ";"] := by
  rw [lineStatement, lines, lines_line, terminate, splice_singleton_cons]

/-- A block is its header, if any, and the indented lines of its body between braces. -/
theorem lines_block (header : Option String) (body : List Fragment) :
    (block header body).lines =
      header.toList ++ ["\x7b"] ++ (body.flatMap lines).map indent ++ ["\x7d"] := by
  rw [lines, linesOfEach_eq_map, List.flatMap_def]

theorem indent_of_ne_empty {line : String} (nonempty : line ≠ "") : indent line = "  " ++ line :=
  if_neg nonempty

/-- A call with one argument of one line stays on one line. -/
theorem lines_call_of_line {argument : Fragment} {text : String}
    (single : argument.lines = [text]) (callee : String) :
    (call callee [argument]).lines = [callee ++ "(" ++ text ++ ")"] := by
  simp [lines, linesOfEach, single, separated, spliceAll, splice]

/-- The one argument of a call may go over several lines: the call begins on the first of them and
ends on the last. -/
theorem lines_call_of_lines {argument : Fragment} {first last : String} {middle : List String}
    (several : argument.lines = first :: middle ++ [last]) (callee : String) :
    (call callee [argument]).lines = (callee ++ "(" ++ first) :: middle ++ [last ++ ")"] := by
  have begun : spliceAll [callee ++ "("] (separated ", " (linesOfEach [argument])) =
      (callee ++ "(" ++ first) :: middle ++ [last] := by
    simp [linesOfEach, several, separated, spliceAll, splice]
  rw [lines, begun, splice_concat_cons]

theorem chainLines_cons (first : List String) (later : List (List String)) :
    chainLines (first :: later) = first ++ later.flatMap dotted := by
  rw [chainLines, List.flatMap_def]

theorem forall_mem_separated {property : List String → Prop} {separator : String}
    {pieces : List (List String)} (ofSeparator : property [separator])
    (ofPieces : ∀ piece ∈ pieces, property piece) :
    ∀ piece ∈ separated separator pieces, property piece := by
  rw [separated]
  fun_induction List.intersperse [separator] pieces with
  | case1 => exact ofPieces
  | case2 piece => exact ofPieces
  | case3 piece rest _ ih =>
      rw [List.forall_mem_cons] at ofPieces
      exact List.forall_mem_cons.mpr
        ⟨ofPieces.1, List.forall_mem_cons.mpr ⟨ofSeparator, ih ofPieces.2⟩⟩

theorem dotted_singleton (line : String) : dotted [line] = ["." ++ line] := rfl

theorem join_splice (lines more : List String) :
    String.join (splice lines more) = String.join lines ++ String.join more := by
  fun_induction splice lines more with
  | case1 more => rw [String.join_nil, String.empty_append]
  | case2 last => rw [String.join_nil, String.append_empty]
  | case3 last first rest => simp [String.append_assoc]
  | case4 head next rest more ih =>
      rw [String.join_cons, ih, @String.join_cons head, String.append_assoc]

theorem join_spliceAll (start : List String) (pieces : List (List String)) :
    String.join (spliceAll start pieces) =
      String.join start ++ String.join (pieces.map String.join) := by
  induction pieces generalizing start with
  | nil => rw [List.map_nil, String.join_nil, String.append_empty]; rfl
  | cons piece rest ih =>
      rw [List.map_cons, String.join_cons, ← String.append_assoc, ← join_splice]
      exact ih (splice start piece)

theorem join_flatten (pieces : List (List String)) :
    String.join pieces.flatten = String.join (pieces.map String.join) := by
  induction pieces with
  | nil => rfl
  | cons piece rest ih =>
      rw [List.flatten_cons, String.join_append, ih, List.map_cons, String.join_cons]

theorem join_singleton (line : String) : String.join [line] = line := by
  rw [String.join_cons, String.join_nil, String.append_empty]

theorem join_dotted (lines : List String) :
    String.join (dotted lines) = "." ++ String.join lines := by
  cases lines with
  | nil => rfl
  | cons line rest => simp [dotted, String.append_assoc]

theorem filter_join_indent {keep : Char → Bool} (dropsBlanks : keep ' ' = false)
    (lines : List String) :
    (String.join (lines.map indent)).toList.filter keep =
      (String.join lines).toList.filter keep := by
  induction lines with
  | nil => rfl
  | cons line rest ih =>
      have same : (indent line).toList.filter keep = line.toList.filter keep := by
        rw [indent]
        split
        · rfl
        · rw [String.toList_append, List.filter_append]
          have margin : "  ".toList.filter keep = [] := by
            simp [dropsBlanks]
          rw [margin, List.nil_append]
      rw [List.map_cons, String.join_cons, String.join_cons, String.toList_append,
        String.toList_append, List.filter_append, List.filter_append, same, ih]

end OperatorSource.Fragment
