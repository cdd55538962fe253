import OperatorSource.Proofs.FragmentLines
import OperatorSource.Proofs.FragmentNodes

/-!
# Lines hold the flat text

A fragment can be written flat, as one run of text without lines.  The lines of the fragment, one
behind the other, are the same text: splicing, dotting and ending put every text and every separator
where it belongs, also around parts that occupy no line at all.  Only the body of a block adds
blanks, for its margin.

Texts are compared by the characters that are kept of them.  If blanks are not kept the margin does
not show; if every character is kept there must be no block.
-/

namespace OperatorSource.Fragment

mutual

/-- The text of a fragment where nothing is put on a line of its own. -/
def flat : Fragment → String
  | .quotedInclude path => "#include \"" ++ path ++ "\""
  | .systemInclude path => "#include <" ++ path ++ ">"
  | .line text => text
  | .comment text => "// " ++ text
  | .statement inner => inner.flat ++ ";"
  | .assignment target value => target ++ " = " ++ value ++ ";"
  | .block header body => header.getD "" ++ "\x7b" ++ String.join (flatOfEach body) ++ "\x7d"
  | .call callee arguments => callee ++ "(" ++ ", ".intercalate (flatOfEach arguments) ++ ")"
  | .joined parts separator => separator.intercalate (flatOfEach parts)
  | .chain links => ".".intercalate (flatOfEach links)
  | .group children => String.join (flatOfEach children)

def flatOfEach : List Fragment → List String
  | [] => []
  | fragment :: rest => fragment.flat :: flatOfEach rest

end

theorem flatOfEach_eq_map (fragments : List Fragment) :
    flatOfEach fragments = fragments.map flat := by
  induction fragments with
  | nil => rfl
  | cons fragment rest ih => rw [flatOfEach, ih, List.map_cons]

def isBlock : Fragment → Bool
  | .block _ _ => true
  | _ => false

theorem join_separated (separator : String) (pieces : List (List String)) :
    String.join ((separated separator pieces).map String.join) =
      separator.intercalate (pieces.map String.join) := by
  induction pieces with
  | nil => rfl
  | cons piece rest ih =>
      cases rest with
      | nil => simp [separated]
      | cons next rest =>
          rw [List.map_cons, List.map_cons, String.intercalate_cons_cons, ← List.map_cons, ← ih]
          simp [separated, String.append_assoc]

theorem join_chainLines (links : List (List String)) :
    String.join (chainLines links) = ".".intercalate (links.map String.join) := by
  cases links with
  | nil => rfl
  | cons first later =>
      rw [chainLines, String.join_append]
      induction later generalizing first with
      | nil => simp
      | cons next later ih =>
          rw [List.map_cons, List.flatten_cons, String.join_append, join_dotted,
            String.append_assoc, ih, List.map_cons, List.map_cons, List.map_cons,
            String.intercalate_cons_cons, String.append_assoc]

section Kept

variable (keep : Char → Bool)

/-- The characters of a text that are kept. -/
def kept (text : String) : List Char := text.toList.filter keep

theorem kept_append (first second : String) :
    kept keep (first ++ second) = kept keep first ++ kept keep second := by
  rw [kept, String.toList_append, List.filter_append]
  rfl

theorem kept_join (texts : List String) :
    kept keep (String.join texts) = (texts.map (kept keep)).flatten := by
  induction texts with
  | nil => rfl
  | cons text rest ih => rw [String.join_cons, kept_append, ih, List.map_cons, List.flatten_cons]

theorem kept_intercalate (separator : String) (texts : List String) :
    kept keep (separator.intercalate texts) =
      (kept keep separator).intercalate (texts.map (kept keep)) := by
  induction texts with
  | nil => rfl
  | cons text rest ih =>
      cases rest with
      | nil => simp
      | cons next rest =>
          rw [String.intercalate_cons_cons, kept_append, kept_append, ih]
          simp

variable {keep}

/-- Blocks only where blanks are not kept, as their margin is made of blanks. -/
theorem kept_lines {fragment : Fragment}
    (noMargin : fragment.AllNodes fun node => node.isBlock = true → keep ' ' = false) :
    kept keep (String.join fragment.lines) = kept keep fragment.flat := by
  have piecewise {children : List Fragment}
      (each : ∀ child ∈ children, kept keep (String.join child.lines) = kept keep child.flat) :
      ((linesOfEach children).map String.join).map (kept keep) =
        (flatOfEach children).map (kept keep) := by
    rw [linesOfEach_eq_map, flatOfEach_eq_map, List.map_map, List.map_map, List.map_map]
    exact List.map_congr_left each
  induction fragment with
  | quotedInclude path => rw [lines, flat, join_singleton]
  | systemInclude path => rw [lines, flat, join_singleton]
  | line text => rw [lines, flat, join_singleton]
  | comment text => rw [lines, flat, join_singleton]
  | statement inner ih =>
      rw [lines, terminate, join_splice, flat, kept_append, kept_append,
        ih (noMargin.child (by simp [children])), join_singleton]
  | assignment target value => rw [lines, flat, join_singleton]
  | block header body ih =>
      have inside := piecewise fun child member => ih child member (noMargin.child member)
      have margin (lines : List String) :
          kept keep (String.join (lines.map indent)) = kept keep (String.join lines) :=
        filter_join_indent (noMargin.self rfl) lines
      have above : String.join header.toList = header.getD "" := by
        cases header with
        | none => rfl
        | some text => exact join_singleton text
      rw [lines, flat, String.join_append, String.join_append, String.join_append, above]
      simp only [kept_append, margin, join_flatten, kept_join, inside, join_singleton]
  | call callee arguments ih =>
      have inside := piecewise fun child member => ih child member (noMargin.child member)
      rw [lines, flat, join_splice, join_spliceAll, join_separated]
      simp only [kept_append, kept_intercalate, inside, join_singleton]
  | joined parts separator ih =>
      have inside := piecewise fun child member => ih child member (noMargin.child member)
      rw [lines, flat, join_spliceAll, join_separated, kept_append, kept_intercalate,
        kept_intercalate, inside]
      rfl
  | chain links ih =>
      have inside := piecewise fun child member => ih child member (noMargin.child member)
      rw [lines, flat, join_chainLines, kept_intercalate, kept_intercalate, inside]
  | group children ih =>
      have inside := piecewise fun child member => ih child member (noMargin.child member)
      rw [lines, flat, join_flatten, kept_join, kept_join, inside]

end Kept

def withoutBlanks (text : String) : String := String.ofList (kept (· != ' ') text)

/-- Laying a fragment out on lines loses, doubles and reorders nothing: one behind the other, the
lines are the flat text, apart from blanks, and with them where there is no block. -/
theorem lines_hold_flat_text (fragment : Fragment) :
    withoutBlanks (String.join fragment.lines) = withoutBlanks fragment.flat ∧
      (fragment.AllNodes (fun node => node.isBlock = false) →
        String.join fragment.lines = fragment.flat) := by
  constructor
  · have same : kept (· != ' ') (String.join fragment.lines) = kept (· != ' ') fragment.flat :=
      kept_lines fun node member isBlock => rfl
    rw [withoutBlanks, same, withoutBlanks]
  · intro blockless
    have same : kept (fun _ => true) (String.join fragment.lines) =
        kept (fun _ => true) fragment.flat :=
      kept_lines fun node member isBlock =>
        absurd isBlock (Bool.eq_false_iff.mp (blockless node member))
    rw [kept, kept, List.filter_true, List.filter_true] at same
    exact String.toList_inj.mp same

/-- Links and arguments that occupy no line, at the beginning, between others and at the end. -/
def hollowCall : Fragment :=
  .statement (.call "f" [.group [],
    .chain [.group [], .line "a b", .chain []],
    .joined [.line "x", .statement (.group [])] " + "])

theorem hollowCall_lines_hold_flat_text :
    hollowCall.AllNodes (fun node => node.isBlock = false) ∧
      hollowCall.lines = ["f(, .a b", "., x + ;);"] ∧
      String.join hollowCall.lines = hollowCall.flat ∧ hollowCall.flat = "f(, .a b., x + ;);" := by
  have blockless : hollowCall.AllNodes (fun node => node.isBlock = false) := by decide +kernel
  have sameText := (lines_hold_flat_text hollowCall).2 blockless
  have twoLines : hollowCall.lines = ["f(, .a b", "., x + ;);"] := by decide +kernel
  refine ⟨blockless, twoLines, sameText, ?_⟩
  rw [← sameText, twoLines]
  rfl

end OperatorSource.Fragment
