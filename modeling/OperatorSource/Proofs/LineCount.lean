import OperatorSource.Proofs.FragmentGrouping
import OperatorSource.Proofs.FragmentNodes
import Mathlib.Algebra.Ring.Nat

/-!
# How many lines a fragment occupies

The number of lines can be told from the numbers of lines of the parts.  A part that is spliced
behind a line adds one line fewer than it has, and none if it has none; a statement and a later link
of a chain have a line for their semicolon or dot even where there was none.

No lines at all are left where groups and chains hold nothing that occupies a line.  Calls and joins
begin with a line of their own, so they stay on one line as long as their parts do.
-/

namespace OperatorSource.Fragment

mutual

/-- The number of lines that a fragment occupies. -/
def lineCount : Fragment → Nat
  | .quotedInclude _ | .systemInclude _ | .line _ | .comment _ | .assignment _ _ => 1
  | .statement inner => max inner.lineCount 1
  | .block header body => (lineCountOfEach body).sum + 2 + (if header.isSome then 1 else 0)
  | .call _ arguments => 1 + ((lineCountOfEach arguments).map (· - 1)).sum
  | .joined parts _ => 1 + ((lineCountOfEach parts).map (· - 1)).sum
  | .chain links =>
    match lineCountOfEach links with
    | [] => 0
    | first :: later => first + (later.map (max · 1)).sum
  | .group children => (lineCountOfEach children).sum

def lineCountOfEach : List Fragment → List Nat
  | [] => []
  | fragment :: rest => fragment.lineCount :: lineCountOfEach rest

end

theorem lineCountOfEach_eq_map (fragments : List Fragment) :
    lineCountOfEach fragments = fragments.map lineCount := by
  induction fragments with
  | nil => rfl
  | cons fragment rest ih => rw [lineCountOfEach, ih, List.map_cons]

theorem length_splice {lines : List String} (linesSome : lines ≠ []) (more : List String) :
    (splice lines more).length = lines.length + (more.length - 1) := by
  fun_induction splice lines more with
  | case1 more => exact absurd rfl linesSome
  | case2 last => rfl
  | case3 last first rest =>
      simp only [List.length_cons, List.length_nil]
      omega
  | case4 head next rest more ih =>
      have later := ih (List.cons_ne_nil next rest)
      simp only [List.length_cons] at later ⊢
      omega

theorem length_spliceAll {start : List String} (startSome : start ≠ [])
    (pieces : List (List String)) :
    (spliceAll start pieces).length =
      start.length + (pieces.map fun piece => piece.length - 1).sum := by
  induction pieces generalizing start with
  | nil => rfl
  | cons piece rest ih =>
      calc (spliceAll start (piece :: rest)).length
          = (splice start piece).length + (rest.map fun piece => piece.length - 1).sum :=
            ih (splice_ne_nil startSome piece)
        _ = start.length + ((piece :: rest).map fun piece => piece.length - 1).sum := by
            rw [length_splice startSome, List.map_cons, List.sum_cons, Nat.add_assoc]

/-- Separators go on a line that has begun. -/
theorem length_spliceAll_separated {start : List String} (startSome : start ≠ [])
    (separator : String) (pieces : List (List String)) :
    (spliceAll start (separated separator pieces)).length =
      start.length + ((pieces.map List.length).map (· - 1)).sum := by
  have sameSum : ((separated separator pieces).map fun piece => piece.length - 1).sum =
      ((pieces.map List.length).map (· - 1)).sum := by
    rw [separated]
    fun_induction List.intersperse [separator] pieces with
    | case1 => rfl
    | case2 piece => rfl
    | case3 piece rest _ ih => simpa using ih
  rw [length_spliceAll startSome, sameSum]

theorem length_terminate (lines : List String) :
    (terminate lines).length = max lines.length 1 := by
  rw [terminate]
  cases lines with
  | nil => rfl
  | cons line rest =>
      rw [length_splice (List.cons_ne_nil line rest)]
      simp

theorem length_dotted (lines : List String) : (dotted lines).length = max lines.length 1 := by
  cases lines with
  | nil => rfl
  | cons line rest => simp [dotted]

theorem length_flatMap_dotted (links : List (List String)) :
    (links.flatMap dotted).length = ((links.map List.length).map (max · 1)).sum := by
  rw [List.length_flatMap, List.map_map]
  exact congrArg List.sum (List.map_congr_left fun link _ => length_dotted link)

theorem length_lines (fragment : Fragment) : fragment.lines.length = fragment.lineCount := by
  have eachCounted {children : List Fragment}
      (counted : ∀ child ∈ children, child.lines.length = child.lineCount) :
      (linesOfEach children).map List.length = lineCountOfEach children := by
    rw [linesOfEach_eq_map, lineCountOfEach_eq_map, List.map_map]
    exact List.map_congr_left counted
  induction fragment with
  | quotedInclude path => rfl
  | systemInclude path => rfl
  | line text => rfl
  | comment text => rfl
  | statement inner ih => rw [lines, length_terminate, ih, lineCount]
  | assignment target value => rfl
  | block header body ih =>
      have inside : (linesOfEach body).flatten.length = (lineCountOfEach body).sum := by
        rw [List.length_flatten, eachCounted ih]
      have above : header.toList.length = if header.isSome then 1 else 0 := by
        cases header <;> rfl
      rw [lines, lineCount]
      simp only [List.length_append, List.length_map, List.length_singleton, inside, above]
      omega
  | call callee arguments ih =>
      have begun := length_spliceAll_separated (List.cons_ne_nil (callee ++ "(") []) ", "
        (linesOfEach arguments)
      have begins : spliceAll [callee ++ "("] (separated ", " (linesOfEach arguments)) ≠ [] := by
        rw [← List.length_pos_iff, begun]
        exact Nat.add_pos_left Nat.one_pos _
      -- The closing bracket goes on the last line, as the call has begun one.
      rw [lines, length_splice begins, begun, eachCounted ih, lineCount]
      rfl
  | joined parts separator ih =>
      rw [lines, length_spliceAll_separated (List.cons_ne_nil "" []), eachCounted ih, lineCount]
      rfl
  | chain links ih =>
      rw [lines, lineCount, ← eachCounted ih]
      cases linesOfEach links with
      | nil => rfl
      | cons first later =>
          rw [chainLines_cons, List.length_append, length_flatMap_dotted, List.map_cons]
  | group children ih => rw [lines, List.length_flatten, eachCounted ih, lineCount]

/-! ## No lines at all -/

/-- Groups of nothing that occupies a line, and chains of no link or of a single such one. -/
inductive Hollow : Fragment → Prop
  | group {children : List Fragment} (each : ∀ child ∈ children, Hollow child) :
      Hollow (.group children)
  | noLink : Hollow (.chain [])
  | oneLink {link : Fragment} (hollow : Hollow link) : Hollow (.chain [link])

theorem lineCount_eq_zero_iff_hollow (fragment : Fragment) :
    fragment.lineCount = 0 ↔ Hollow fragment := by
  induction fragment with
  | quotedInclude path => exact iff_of_false Nat.one_ne_zero nofun
  | systemInclude path => exact iff_of_false Nat.one_ne_zero nofun
  | line text => exact iff_of_false Nat.one_ne_zero nofun
  | comment text => exact iff_of_false Nat.one_ne_zero nofun
  | statement inner ih =>
      refine iff_of_false ?_ nofun
      rw [lineCount]
      omega
  | assignment target value => exact iff_of_false Nat.one_ne_zero nofun
  | block header body ih =>
      refine iff_of_false ?_ nofun
      rw [lineCount]
      omega
  | call callee arguments ih =>
      refine iff_of_false ?_ nofun
      rw [lineCount]
      omega
  | joined parts separator ih =>
      refine iff_of_false ?_ nofun
      rw [lineCount]
      omega
  | chain links ih =>
      rcases links with _ | ⟨first, _ | ⟨next, rest⟩⟩
      · exact iff_of_true rfl .noLink
      · have single : (chain [first]).lineCount = first.lineCount := rfl
        rw [single, ih first List.mem_cons_self]
        constructor
        · exact .oneLink
        · rintro ⟨⟩
          assumption
      · -- A second link has a line for its dot, even if it occupies none itself.
        have several : (chain (first :: next :: rest)).lineCount = first.lineCount +
            (max next.lineCount 1 + ((lineCountOfEach rest).map (max · 1)).sum) := rfl
        refine iff_of_false ?_ nofun
        rw [several]
        omega
  | group children ih =>
      have counted : (group children).lineCount = 0 ↔ ∀ child ∈ children, child.lineCount = 0 := by
        rw [lineCount, lineCountOfEach_eq_map, List.sum_eq_zero_iff_forall_eq_nat,
          List.forall_mem_map]
      rw [counted]
      constructor
      · intro none
        exact .group fun child member => (ih child member).mp (none child member)
      · rintro ⟨each⟩ child member
        exact (ih child member).mpr (each child member)

/-- Calls and joins, inside one another to any depth, of parts that occupy at most one line. -/
inductive StaysShort : Fragment → Prop
  | part {fragment : Fragment} (short : fragment.lines.length ≤ 1) : StaysShort fragment
  | call {callee : String} {arguments : List Fragment}
      (each : ∀ argument ∈ arguments, StaysShort argument) : StaysShort (.call callee arguments)
  | joined {parts : List Fragment} {separator : String}
      (each : ∀ part ∈ parts, StaysShort part) : StaysShort (.joined parts separator)

/-- Parts of at most one line add no line to the one they are spliced to. -/
theorem sum_lineCountOfEach_sub_one {parts : List Fragment}
    (short : ∀ part ∈ parts, part.lineCount ≤ 1) :
    ((lineCountOfEach parts).map (· - 1)).sum = 0 := by
  rw [List.sum_eq_zero_iff_forall_eq_nat]
  intro added member
  rw [lineCountOfEach_eq_map, List.map_map, List.mem_map] at member
  obtain ⟨part, inParts, rfl⟩ := member
  exact Nat.sub_eq_zero_of_le (short part inParts)

theorem lineCount_call_of_short {arguments : List Fragment}
    (short : ∀ argument ∈ arguments, argument.lineCount ≤ 1) (callee : String) :
    (call callee arguments).lineCount = 1 := by
  rw [lineCount, sum_lineCountOfEach_sub_one short]

theorem lineCount_joined_of_short {parts : List Fragment}
    (short : ∀ part ∈ parts, part.lineCount ≤ 1) (separator : String) :
    (joined parts separator).lineCount = 1 := by
  rw [lineCount, sum_lineCountOfEach_sub_one short]

theorem StaysShort.lineCount_le {fragment : Fragment} (stays : StaysShort fragment) :
    fragment.lineCount ≤ 1 := by
  induction stays with
  | part short => rwa [← length_lines]
  | call each ih => exact Nat.le_of_eq (lineCount_call_of_short ih _)
  | joined each ih => exact Nat.le_of_eq (lineCount_joined_of_short ih _)

/-- The number of lines is as counted, and there is none exactly if the fragment is hollow.  A call
or a join that is made by calling and joining alone, of parts of at most one line, is one line. -/
theorem lines_counted_by_parts (fragment : Fragment) :
    fragment.lines.length = fragment.lineCount ∧
      (fragment.lines = [] ↔ Hollow fragment) ∧
      ∀ parts : List Fragment, (∀ part ∈ parts, StaysShort part) → ∀ text,
        (call text parts).lines.length = 1 ∧ (joined parts text).lines.length = 1 := by
  refine ⟨length_lines fragment, ?_, ?_⟩
  · rw [← List.length_eq_zero_iff, length_lines, lineCount_eq_zero_iff_hollow]
  · intro parts stay text
    have short : ∀ part ∈ parts, part.lineCount ≤ 1 := fun part member =>
      (stay part member).lineCount_le
    rw [length_lines, length_lines]
    exact ⟨lineCount_call_of_short short text, lineCount_joined_of_short short text⟩

/-- Parts of no line and of one line, the last one joined of such parts. -/
def shortParts : List Fragment :=
  [.group [.chain [.group []]], .line "x",
    .joined [.chain [], .call "f" [], .group [.blank]] ", "]

theorem lines_counted_of_shortParts :
    (∀ part ∈ shortParts, StaysShort part) ∧
      (call "each" shortParts).lines.length = 1 ∧
      Hollow (.group [.chain [.group []], .group []]) ∧
      (chain (.block (some "g()") shortParts :: shortParts)).lines.length =
        (chain (.block (some "g()") shortParts :: shortParts)).lineCount ∧
      (chain (.block (some "g()") shortParts :: shortParts)).lineCount = 8 := by
  have stay : ∀ part ∈ shortParts, StaysShort part := by
    have inner : ∀ part ∈ [chain [], call "f" [], group [blank]], part.lines.length ≤ 1 := by
      decide +kernel
    rw [shortParts, List.forall_mem_cons, List.forall_mem_cons, List.forall_mem_singleton]
    exact ⟨.part (by decide +kernel), .part (by decide +kernel),
      .joined fun part member => .part (inner part member)⟩
  have noLine : (group [.chain [.group []], .group []]).lines = [] := by decide +kernel
  obtain ⟨counted, _, oneLine⟩ :=
    lines_counted_by_parts (chain (.block (some "g()") shortParts :: shortParts))
  exact ⟨stay, (oneLine shortParts stay "each").1, (lines_counted_by_parts _).2.1.mp noLine,
    counted, by decide +kernel⟩

end OperatorSource.Fragment
