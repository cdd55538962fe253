import Mathlib.Data.List.Basic

/-!
# Reading numbers back

Numbers are written in decimal, and lists of them with a comma and a blank between neighbours.  The
readers here undo both, for numbers of any size and lists of any length.  They take plain characters
and accept nothing but digits, so that whatever reads as a number was written as digits only.
-/

namespace OperatorSource.NumberReading

/-- The number that some digits write in decimal. -/
def readNumber (characters : List Char) : Option Nat :=
  if characters ≠ [] ∧ characters.all Char.isDigit then some (Nat.ofDigitChars 10 characters 0)
  else none

/-- The pieces between the separators: a comma with a blank behind it. -/
def pieces : List Char → List (List Char)
  | [] => [[]]
  | ',' :: ' ' :: rest => [] :: pieces rest
  | character :: rest => (pieces rest).modifyHead (character :: ·)

/-- The numbers of a list; where nothing is written, there is no number. -/
def readNumbers (characters : List Char) : Option (List Nat) :=
  if characters = [] then some [] else (pieces characters).mapM readNumber

theorem isDigit_of_mem_toString {number : Nat} {character : Char}
    (member : character ∈ (toString number).toList) : character.isDigit = true := by
  rw [Nat.toString_eq_repr, Nat.toList_repr] at member
  exact Nat.isDigit_of_mem_toDigits (by decide) (by decide) member

theorem toString_toList_ne_nil (number : Nat) : (toString number).toList ≠ [] := by
  rw [Nat.toString_eq_repr, Nat.toList_repr]
  exact Nat.toDigits_ne_nil

theorem readNumber_toString (number : Nat) : readNumber (toString number).toList = some number := by
  have digits : (toString number).toList.all Char.isDigit = true :=
    List.all_eq_true.mpr fun character member => isDigit_of_mem_toString member
  rw [readNumber, if_pos ⟨toString_toList_ne_nil number, digits⟩, Nat.toString_eq_repr,
    Nat.toList_repr, Nat.ofDigitChars_ten_toDigits]

theorem eq_zero_of_head?_toString {number : Nat}
    (zero : (toString number).toList.head? = some '0') : number = 0 := by
  rw [Nat.toString_eq_repr, Nat.toList_repr] at zero
  induction number using Nat.strongRecOn with
  | ind number ih =>
      rw [Nat.toDigits_eq_if (by decide)] at zero
      split at zero
      · exact Nat.digitChar_eq_zero.mp (Option.some.inj zero)
      · rw [List.head?_append_of_ne_nil _ Nat.toDigits_ne_nil] at zero
        have := ih (number / 10) (by omega) zero
        omega

theorem toString_inj {first second : Nat} : toString first = toString second ↔ first = second := by
  constructor
  · intro sameText
    have read := readNumber_toString first
    rw [sameText, readNumber_toString] at read
    exact (Option.some.inj read).symm
  · rintro rfl
    rfl

theorem pieces_cons {character : Char} (noComma : character ≠ ',') (rest : List Char) :
    pieces (character :: rest) = (pieces rest).modifyHead (character :: ·) := by
  rw [pieces]
  rintro rest' rfl
  exact absurd rfl noComma

theorem pieces_of_noComma {piece : List Char} (noComma : ∀ character ∈ piece, character ≠ ',') :
    pieces piece = [piece] := by
  induction piece with
  | nil => rfl
  | cons character piece ih =>
      rw [List.forall_mem_cons] at noComma
      rw [pieces_cons noComma.1, ih noComma.2]
      rfl

theorem pieces_append {piece : List Char} (noComma : ∀ character ∈ piece, character ≠ ',')
    (rest : List Char) : pieces (piece ++ ',' :: ' ' :: rest) = piece :: pieces rest := by
  induction piece with
  | nil => rfl
  | cons character piece ih =>
      rw [List.forall_mem_cons] at noComma
      rw [List.cons_append, pieces_cons noComma.1, ih noComma.2]
      rfl

theorem pieces_intercalate (first : List Char) (later : List (List Char))
    (noComma : ∀ piece ∈ first :: later, ∀ character ∈ piece, character ≠ ',') :
    pieces ([',', ' '].intercalate (first :: later)) = first :: later := by
  induction later generalizing first with
  | nil =>
      rw [List.intercalate_singleton]
      exact pieces_of_noComma (noComma first (by simp))
  | cons next later ih =>
      rw [List.forall_mem_cons] at noComma
      rw [List.intercalate_cons_cons, List.append_assoc, List.cons_append, List.cons_append,
        List.nil_append, pieces_append noComma.1, ih next noComma.2]

/-- Between the separators stands nothing but the pieces. -/
theorem forall_mem_intercalate {property : Char → Prop} {separator : List Char}
    {pieces : List (List Char)} (ofSeparator : ∀ character ∈ separator, property character)
    (ofPieces : ∀ piece ∈ pieces, ∀ character ∈ piece, property character) :
    ∀ character ∈ separator.intercalate pieces, property character := by
  induction pieces with
  | nil => nofun
  | cons piece rest ih =>
      rw [List.forall_mem_cons] at ofPieces
      cases rest with
      | nil =>
          rw [List.intercalate_singleton]
          exact ofPieces.1
      | cons next rest =>
          rw [List.intercalate_cons_cons, List.forall_mem_append, List.forall_mem_append]
          exact ⟨⟨ofPieces.1, ofSeparator⟩, ih ofPieces.2⟩

theorem mapM_readNumber_map_toString (numbers : List Nat) :
    (numbers.map fun number => (toString number).toList).mapM readNumber = some numbers := by
  induction numbers with
  | nil => rfl
  | cons number rest ih =>
      rw [List.map_cons, List.mapM_cons, readNumber_toString, ih]
      rfl

theorem toList_intercalate_toString (numbers : List Nat) :
    (", ".intercalate (numbers.map toString)).toList =
      [',', ' '].intercalate (numbers.map fun number => (toString number).toList) := by
  simp [Function.comp_def]

theorem intercalate_toString_ne_nil (first : Nat) (later : List Nat) :
    [',', ' '].intercalate ((first :: later).map fun number => (toString number).toList) ≠ [] := by
  cases later <;> simp [Nat.toDigits_ne_nil]

theorem pieces_intercalate_toString (first : Nat) (later : List Nat) :
    pieces ([',', ' '].intercalate ((first :: later).map fun number => (toString number).toList)) =
      (first :: later).map fun number => (toString number).toList := by
  have noComma : ∀ piece ∈ (first :: later).map (fun number => (toString number).toList),
      ∀ character ∈ piece, character ≠ ',' := by
    intro piece member character inPiece
    obtain ⟨written, _, rfl⟩ := List.mem_map.mp member
    rintro rfl
    exact absurd (isDigit_of_mem_toString inPiece) (by decide)
  rw [List.map_cons] at noComma ⊢
  exact pieces_intercalate _ _ noComma

theorem readNumbers_intercalate_toString (numbers : List Nat) :
    readNumbers (", ".intercalate (numbers.map toString)).toList = some numbers := by
  cases numbers with
  | nil => rfl
  | cons first later =>
      rw [toList_intercalate_toString, readNumbers,
        if_neg (intercalate_toString_ne_nil first later), pieces_intercalate_toString,
        mapM_readNumber_map_toString]

end OperatorSource.NumberReading
