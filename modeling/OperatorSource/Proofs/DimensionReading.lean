import OperatorSource.Proofs.BracketNesting
import OperatorSource.Proofs.NumberReading
import OperatorSource.Registration.ShapeFunction

/-!
# Reading dimensions back

A list of dimensions is written between curly brackets.  Once these are taken off, the pieces
between the separators are the dimensions in decimal, each without zeros in front, so the list can
be read back, and different lists are written differently.  Nothing written stands for the empty
list.
-/

namespace OperatorSource.Registration

open NumberReading OperatorSource.Bracket

/-- What stands between the curly brackets that a text begins and ends with. -/
def unbraced? : List Char → Option (List Char)
  | '\x7b' :: rest => if rest.getLast? = some '\x7d' then some rest.dropLast else none
  | _ => none

/-- The pieces of a list in curly brackets; where nothing stands between these there is none. -/
def bracedPieces? (text : String) : Option (List (List Char)) := do
  let inside ← unbraced? text.toList
  return if inside = [] then [] else pieces inside

/-- Reads the dimensions of a list in curly brackets. -/
def readDimensions (text : String) : Option (List Nat) := do
  (← bracedPieces? text).mapM readNumber

/-- Decimal digits, with no zero in front of others. -/
structure IsNumeral (characters : List Char) : Prop where
  nonempty : characters ≠ []
  digits : ∀ character ∈ characters, character.isDigit = true
  noLeadingZero : 2 ≤ characters.length → characters.head? ≠ some '0'

theorem isNumeral_toString (number : Nat) : IsNumeral (toString number).toList where
  nonempty := toString_toList_ne_nil number
  digits _ member := isDigit_of_mem_toString member
  noLeadingZero := by
    intro several zero
    obtain rfl : number = 0 := eq_zero_of_head?_toString zero
    exact absurd several (by decide)

theorem toList_dimensionList (dimensions : List Nat) :
    (dimensionList dimensions).toList = '\x7b' ::
      ([',', ' '].intercalate (dimensions.map fun dimension => (toString dimension).toList) ++
        ['\x7d']) := by
  rw [dimensionList, String.toList_append, String.toList_append, toList_intercalate_toString]
  rfl

theorem unbraced?_braced (inside : List Char) :
    unbraced? ('\x7b' :: (inside ++ ['\x7d'])) = some inside := by
  rw [unbraced?, if_pos List.getLast?_concat, List.dropLast_concat]

theorem bracedPieces?_dimensionList (dimensions : List Nat) :
    bracedPieces? (dimensionList dimensions) =
      some (dimensions.map fun dimension => (toString dimension).toList) := by
  rw [bracedPieces?, toList_dimensionList, unbraced?_braced]
  cases dimensions with
  | nil => rfl
  | cons first later =>
      rw [Option.bind_eq_bind, Option.bind_some, if_neg (intercalate_toString_ne_nil first later),
        pieces_intercalate_toString]
      rfl

theorem readDimensions_dimensionList (dimensions : List Nat) :
    readDimensions (dimensionList dimensions) = some dimensions := by
  rw [readDimensions, bracedPieces?_dimensionList]
  exact mapM_readNumber_map_toString dimensions

theorem dimensionList_inj {first second : List Nat} :
    dimensionList first = dimensionList second ↔ first = second := by
  constructor
  · intro sameText
    have read := readDimensions_dimensionList first
    rw [sameText, readDimensions_dimensionList] at read
    exact (Option.some.inj read).symm
  · rintro rfl
    rfl

/-- The brackets of a list of dimensions are the two around it. -/
theorem filter_isBracket_dimensionList (dimensions : List Nat) :
    (dimensionList dimensions).toList.filter isBracket = ['\x7b', '\x7d'] := by
  have noBracket : ∀ character ∈ [',', ' '].intercalate
      (dimensions.map fun dimension => (toString dimension).toList), ¬ isBracket character := by
    have separator : ∀ character ∈ [',', ' '], ¬ isBracket character := by
      rw [List.forall_mem_cons, List.forall_mem_singleton]
      decide
    refine forall_mem_intercalate separator ?_
    rw [List.forall_mem_map]
    intro dimension _ character member bracket
    have digit := isDigit_of_mem_toString member
    simp only [isBracket, Bool.or_eq_true, beq_iff_eq] at bracket
    obtain ((rfl | rfl) | rfl) | rfl := bracket <;> exact absurd digit (by decide)
  have opening : isBracket '\x7b' = true := rfl
  rw [toList_dimensionList, List.filter_cons_of_pos opening, List.filter_append,
    List.filter_eq_nil_iff.mpr noBracket]
  rfl

/-- Every list of dimensions can be read back from its text, so different lists are written
differently.  All that is read are numerals, and the text is nested, with no brackets but the two
around it. -/
theorem dimensions_read_back (dimensions : List Nat) :
    readDimensions (dimensionList dimensions) = some dimensions ∧
      (∀ other, dimensionList dimensions = dimensionList other ↔ dimensions = other) ∧
      (∃ numerals, bracedPieces? (dimensionList dimensions) = some numerals ∧
        ∀ numeral ∈ numerals, IsNumeral numeral) ∧
      (dimensionList dimensions).toList.filter isBracket = ['\x7b', '\x7d'] ∧
      Nested (dimensionList dimensions).toList := by
  have brackets := filter_isBracket_dimensionList dimensions
  have nested : Nested ['\x7b', '\x7d'] := .enclosed .curly .nil .nil
  refine ⟨readDimensions_dimensionList dimensions, fun other => dimensionList_inj,
    ⟨_, bracedPieces?_dimensionList dimensions, ?_⟩, brackets, nested.congr brackets.symm⟩
  rw [List.forall_mem_map]
  exact fun dimension _ => isNumeral_toString dimension

/-- Neither the empty list nor the ends of the 64-bit range are special. -/
example : dimensionList [] = "\x7b\x7d" ∧
    readDimensions "\x7b0, 18446744073709551615\x7d" = some [0, 18446744073709551615] := by
  decide +kernel

end OperatorSource.Registration
