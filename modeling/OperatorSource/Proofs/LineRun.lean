import OperatorSource.Proofs.FlatSourceText
import OperatorSource.Proofs.NumberReading
import Mathlib.Data.List.Basic

/-!
# Runs of lines in a text

A text is its lines, each followed by a line feed.  Where the lines of a run are not empty and hold
no line feed themselves, the run can be read back from the text, up to its end or the first empty
line.  What comes after the run may be anything.
-/

namespace OperatorSource.LineRun

/-- The characters of some lines, each followed by a line feed. -/
def written (lines : List String) : List Char := lines.flatMap fun line => line.toList ++ ['\n']

/-- The text stays on one line. -/
def IsUnbroken (text : String) : Prop := '\n' ∉ text.toList

/-- The text stays on one line and is not empty. -/
def IsFilled (line : String) : Prop := line ≠ "" ∧ IsUnbroken line

/-- A run of filled lines ends here: with the text or with an empty line. -/
def Ends (rest : List Char) : Prop := ∀ character ∈ rest.head?, character = '\n'

instance (text : String) : Decidable (IsUnbroken text) :=
  inferInstanceAs (Decidable ('\n' ∉ text.toList))

instance (line : String) : Decidable (IsFilled line) :=
  inferInstanceAs (Decidable (line ≠ "" ∧ IsUnbroken line))

theorem IsUnbroken.append {first second : String} (firstUnbroken : IsUnbroken first)
    (secondUnbroken : IsUnbroken second) : IsUnbroken (first ++ second) := by
  rw [IsUnbroken, String.toList_append, List.mem_append, not_or]
  exact ⟨firstUnbroken, secondUnbroken⟩

theorem IsFilled.append {first second : String} (firstFilled : IsFilled first)
    (secondUnbroken : IsUnbroken second) : IsFilled (first ++ second) := by
  refine ⟨fun empty => ?_, firstFilled.2.append secondUnbroken⟩
  exact firstFilled.1 (String.append_eq_empty_iff.mp empty).1

theorem isUnbroken_of_forall {test : Char → Bool} (lineFeed : test '\n' = false) {text : String}
    (passes : ∀ character ∈ text.toList, test character = true) : IsUnbroken text := by
  intro member
  exact absurd (passes '\n' member) (by simp [lineFeed])

theorem IsUnbroken.intercalate {separator : String} (separatorUnbroken : IsUnbroken separator)
    {texts : List String} (unbroken : ∀ text ∈ texts, IsUnbroken text) :
    IsUnbroken (separator.intercalate texts) := by
  simp only [IsUnbroken, ← List.forall_mem_ne] at separatorUnbroken unbroken ⊢
  rw [String.toList_intercalate]
  exact NumberReading.forall_mem_intercalate separatorUnbroken (List.forall_mem_map.mpr unbroken)

theorem isUnbroken_toString (number : Nat) : IsUnbroken (toString number) :=
  isUnbroken_of_forall (by decide) fun _ member => NumberReading.isDigit_of_mem_toString member

theorem written_append (first second : List String) :
    written (first ++ second) = written first ++ written second :=
  List.flatMap_append

theorem written_cons (line : String) (rest : List String) :
    written (line :: rest) = line.toList ++ '\n' :: written rest := by
  simp [written]

theorem toList_sourceText (settings : Settings) (request : Request) :
    (FlatSource.sourceText settings request).toList =
      written (FlatSource.sourceLines settings request) := by
  have joined (lines : List String) :
      (String.join (lines.map fun line => line ++ "\n")).toList = written lines := by
    simp [written, List.flatMap_map]
  exact joined _

theorem ends_nil : Ends [] := nofun

theorem ends_lineFeed (rest : List Char) : Ends ('\n' :: rest) := by
  intro character first
  exact (Option.some.inj first).symm

/-- Where a run ends, no filled line begins. -/
theorem Ends.ne_filled {rest : List Char} (ends : Ends rest) {line : String}
    (filled : IsFilled line) (tail : List Char) : line.toList ++ tail ≠ rest := by
  rintro rfl
  obtain ⟨nonempty, unbroken⟩ := filled
  cases spelled : line.toList with
  | nil => exact nonempty (String.toList_eq_nil_iff.mp spelled)
  | cons character characters =>
      rw [IsUnbroken, spelled] at unbroken
      rw [spelled] at ends
      have lineFeed : character = '\n' := ends character rfl
      exact unbroken (lineFeed ▸ List.mem_cons_self)

/-- What stands before the first occurrence of a character, and what comes after it. -/
theorem before_inj {stop : Char} {first second rest other : List Char}
    (notInFirst : stop ∉ first) (notInSecond : stop ∉ second)
    (sameText : first ++ stop :: rest = second ++ stop :: other) :
    first = second ∧ rest = other := by
  induction first generalizing second with
  | nil =>
      cases second with
      | nil => exact ⟨rfl, (List.cons.inj sameText).2⟩
      | cons character second =>
          have same : stop = character := (List.cons.inj sameText).1
          exact absurd (same ▸ List.mem_cons_self) notInSecond
  | cons character first ih =>
      cases second with
      | nil =>
          have same : character = stop := (List.cons.inj sameText).1
          exact absurd (same ▸ List.mem_cons_self) notInFirst
      | cons next second =>
          obtain ⟨rfl, sameLater⟩ := List.cons.inj sameText
          obtain ⟨rfl, sameRest⟩ := ih (fun later => notInFirst (List.mem_cons_of_mem _ later))
            (fun later => notInSecond (List.mem_cons_of_mem _ later)) sameLater
          exact ⟨rfl, sameRest⟩

/-- A run of filled lines, and what comes after it, can be told from the text. -/
theorem written_append_inj {first second : List String} {rest other : List Char}
    (firstFilled : ∀ line ∈ first, IsFilled line) (secondFilled : ∀ line ∈ second, IsFilled line)
    (restEnds : Ends rest) (otherEnds : Ends other)
    (sameText : written first ++ rest = written second ++ other) :
    first = second ∧ rest = other := by
  induction first generalizing second with
  | nil =>
      cases second with
      | nil => exact ⟨rfl, sameText⟩
      | cons line second =>
          rw [written_cons, List.append_assoc] at sameText
          exact absurd sameText.symm
            (restEnds.ne_filled (secondFilled line List.mem_cons_self) _)
  | cons line first ih =>
      rw [List.forall_mem_cons] at firstFilled
      cases second with
      | nil =>
          rw [written_cons, List.append_assoc] at sameText
          exact absurd sameText (otherEnds.ne_filled firstFilled.1 _)
      | cons next second =>
          rw [List.forall_mem_cons] at secondFilled
          rw [written_cons, written_cons, List.append_assoc, List.append_assoc, List.cons_append,
            List.cons_append] at sameText
          obtain ⟨sameLine, sameLater⟩ := before_inj firstFilled.1.2 secondFilled.1.2 sameText
          obtain ⟨rfl, sameRest⟩ := ih firstFilled.2 secondFilled.2 sameLater
          rw [String.toList_inj.mp sameLine]
          exact ⟨rfl, sameRest⟩

end OperatorSource.LineRun
