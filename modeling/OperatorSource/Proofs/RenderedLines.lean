import OperatorSource.Proofs.FlatText
import OperatorSource.Proofs.FragmentGrouping
import OperatorSource.Proofs.PhysicalLines

/-!
# Rendered lines read back

The text of a fragment is taken apart at its line feeds.  If no string of the fragment holds a line
feed, this gives exactly the lines that the fragment occupies, with the empty ones among them, and
one empty line behind the last line feed.  So the text tells the lines.

Laying out adds no line feed, wherever lines are spliced, dotted, ended or moved to the right: apart
from blanks, the lines are the flat text, which has line feeds from the given strings alone.
-/

namespace OperatorSource.LineRun

theorem IsUnbroken.join {texts : List String} (unbroken : ∀ text ∈ texts, IsUnbroken text) :
    IsUnbroken (String.join texts) := by
  rw [IsUnbroken, String.toList_join]
  intro member
  obtain ⟨text, inTexts, inText⟩ := List.mem_flatMap.mp member
  exact unbroken text inTexts inText

theorem IsUnbroken.of_join {texts : List String} (unbroken : IsUnbroken (String.join texts)) :
    ∀ text ∈ texts, IsUnbroken text := by
  intro text inTexts inText
  apply unbroken
  rw [String.toList_join]
  exact List.mem_flatMap_of_mem inTexts inText

/-- Lines without line feeds can be told from their text. -/
theorem unlines_inj_iff {first second : List String}
    (firstUnbroken : ∀ line ∈ first, IsUnbroken line)
    (secondUnbroken : ∀ line ∈ second, IsUnbroken line) :
    unlines first = unlines second ↔ first = second := by
  constructor
  · intro sameText
    have sameLines : first ++ [""] = second ++ [""] := by
      rw [← physicalLines_unlines_of_isUnbroken firstUnbroken, sameText,
        physicalLines_unlines_of_isUnbroken secondUnbroken]
    exact List.append_cancel_right sameLines
  · rintro rfl
    rfl

end OperatorSource.LineRun

namespace OperatorSource.Fragment

open LineRun

/-- A node whose own texts hold no line feed. -/
def IsUnbrokenNode (node : Fragment) : Prop := ∀ text ∈ node.texts, IsUnbroken text

instance : DecidablePred IsUnbrokenNode := fun node =>
  inferInstanceAs (Decidable (∀ text ∈ node.texts, IsUnbroken text))

theorem isUnbroken_iff_kept {text : String} : IsUnbroken text ↔ kept (· == '\n') text = [] := by
  rw [IsUnbroken, kept, List.filter_eq_nil_iff]
  constructor
  · intro absent character member isLineFeed
    exact absent (beq_iff_eq.mp isLineFeed ▸ member)
  · intro noneKept member
    exact noneKept '\n' member rfl

/-- No matter how they are laid out, the lines hold line feeds only if the flat text does. -/
theorem isUnbroken_join_lines_iff (fragment : Fragment) :
    IsUnbroken (String.join fragment.lines) ↔ IsUnbroken fragment.flat := by
  have same : kept (· == '\n') (String.join fragment.lines) = kept (· == '\n') fragment.flat :=
    kept_lines fun node member isBlock => rfl
  rw [isUnbroken_iff_kept, same, isUnbroken_iff_kept]

theorem isUnbroken_flat {fragment : Fragment} (unbroken : fragment.AllNodes IsUnbrokenNode) :
    IsUnbroken fragment.flat := by
  have eachUnbroken {children : List Fragment}
      (flatUnbroken : ∀ child ∈ children, IsUnbroken child.flat) :
      ∀ text ∈ flatOfEach children, IsUnbroken text := by
    rw [flatOfEach_eq_map, List.forall_mem_map]
    exact flatUnbroken
  induction fragment with
  | quotedInclude path =>
      have pathUnbroken : IsUnbroken path := unbroken.self path (by simp [texts])
      rw [flat]
      exact (IsUnbroken.append (by decide) pathUnbroken).append (by decide)
  | systemInclude path =>
      have pathUnbroken : IsUnbroken path := unbroken.self path (by simp [texts])
      rw [flat]
      exact (IsUnbroken.append (by decide) pathUnbroken).append (by decide)
  | line text =>
      rw [flat]
      exact unbroken.self text (by simp [texts])
  | comment text =>
      rw [flat]
      exact .append (by decide) (unbroken.self text (by simp [texts]))
  | statement inner ih =>
      rw [flat]
      exact (ih (unbroken.child (by simp [children]))).append (by decide)
  | assignment target value =>
      have targetUnbroken : IsUnbroken target := unbroken.self target (by simp [texts])
      have valueUnbroken : IsUnbroken value := unbroken.self value (by simp [texts])
      rw [flat]
      exact ((targetUnbroken.append (by decide)).append valueUnbroken).append (by decide)
  | block header body ih =>
      have headerUnbroken : IsUnbroken (header.getD "") := by
        cases header with
        | none => exact List.not_mem_nil
        | some text => exact unbroken.self text (by simp [texts])
      have inside := eachUnbroken fun child member => ih child member (unbroken.child member)
      rw [flat]
      exact ((headerUnbroken.append (by decide)).append (.join inside)).append (by decide)
  | call callee arguments ih =>
      have calleeUnbroken : IsUnbroken callee := unbroken.self callee (by simp [texts])
      have inside := eachUnbroken fun child member => ih child member (unbroken.child member)
      rw [flat]
      exact ((calleeUnbroken.append (by decide)).append (.intercalate (by decide) inside)).append
        (by decide)
  | joined parts separator ih =>
      have separatorUnbroken : IsUnbroken separator := unbroken.self separator (by simp [texts])
      rw [flat]
      exact separatorUnbroken.intercalate
        (eachUnbroken fun child member => ih child member (unbroken.child member))
  | chain links ih =>
      rw [flat]
      exact .intercalate (by decide)
        (eachUnbroken fun child member => ih child member (unbroken.child member))
  | group children ih =>
      rw [flat]
      exact .join (eachUnbroken fun child member => ih child member (unbroken.child member))

theorem isUnbroken_of_mem_lines {fragment : Fragment}
    (unbroken : fragment.AllNodes IsUnbrokenNode) : ∀ line ∈ fragment.lines, IsUnbroken line :=
  .of_join ((isUnbroken_join_lines_iff fragment).mpr (isUnbroken_flat unbroken))

theorem renderAll_eq_unlines (fragments : List Fragment) :
    renderAll fragments = unlines (fragments.flatMap lines) := by
  rw [renderAll, ← render_group, render, lines_group]

/-- Where no string holds a line feed, lines hold none either, and a text that is taken apart at its
line feeds gives back the lines of its fragment, or of its fragments in order, with an empty piece
at the end.  So two texts are the same exactly if the lines are, and a text is empty exactly if
there are no lines. -/
theorem rendered_lines_read_back {fragment other : Fragment} {sequence : List Fragment}
    (unbroken : fragment.AllNodes IsUnbrokenNode) (otherUnbroken : other.AllNodes IsUnbrokenNode)
    (eachUnbroken : ∀ member ∈ sequence, member.AllNodes IsUnbrokenNode) :
    (∀ line ∈ fragment.lines, IsUnbroken line) ∧
      physicalLines fragment.render = fragment.lines ++ [""] ∧
      (fragment.render = other.render ↔ fragment.lines = other.lines) ∧
      (fragment.render = "" ↔ fragment.lines = []) ∧
      physicalLines (renderAll sequence) = sequence.flatMap lines ++ [""] := by
  have linesUnbroken := isUnbroken_of_mem_lines unbroken
  have otherLinesUnbroken := isUnbroken_of_mem_lines otherUnbroken
  have allUnbroken : ∀ line ∈ sequence.flatMap lines, IsUnbroken line := by
    intro line inSequence
    obtain ⟨member, inside, inLines⟩ := List.mem_flatMap.mp inSequence
    exact isUnbroken_of_mem_lines (eachUnbroken member inside) line inLines
  refine ⟨linesUnbroken, physicalLines_unlines_of_isUnbroken linesUnbroken,
    unlines_inj_iff linesUnbroken otherLinesUnbroken,
    unlines_inj_iff linesUnbroken (List.forall_mem_nil _), ?_⟩
  rw [renderAll_eq_unlines]
  exact physicalLines_unlines_of_isUnbroken allUnbroken

/-- Empty lines at the beginning, between others and at the end, and parts that occupy no line. -/
def gappedGroup : Fragment :=
  .group [.blank, .chain [.group [], .line "x", .blank], .block none [.blank, .line " "], .blank]

/-- The lines of `gappedGroup`, one by one. -/
def gappedLines : List Fragment :=
  [.blank, .line ".x", .line ".", .line "\x7b", .blank, .line "   ", .line "\x7d", .blank]

theorem gappedGroup_reads_back :
    gappedGroup.AllNodes IsUnbrokenNode ∧ (∀ member ∈ gappedLines, member.AllNodes IsUnbrokenNode) ∧
      gappedGroup.lines = ["", ".x", ".", "\x7b", "", "   ", "\x7d", ""] ∧
      physicalLines gappedGroup.render = gappedGroup.lines ++ [""] ∧
      gappedGroup.render = (group gappedLines).render ∧
      physicalLines (renderAll gappedLines) = gappedGroup.lines ++ [""] := by
  have unbroken : gappedGroup.AllNodes IsUnbrokenNode := by decide +kernel
  have groupUnbroken : (group gappedLines).AllNodes IsUnbrokenNode := by decide +kernel
  have eachUnbroken : ∀ member ∈ gappedLines, member.AllNodes IsUnbrokenNode := by decide +kernel
  have sameLines : gappedGroup.lines = (group gappedLines).lines := by decide +kernel
  have inOrder : gappedGroup.lines = gappedLines.flatMap lines := by decide +kernel
  obtain ⟨_, readBack, sameText, _, sequenceReadBack⟩ :=
    rendered_lines_read_back unbroken groupUnbroken eachUnbroken
  exact ⟨unbroken, eachUnbroken, by decide +kernel, readBack, sameText.mpr sameLines,
    inOrder ▸ sequenceReadBack⟩

end OperatorSource.Fragment
