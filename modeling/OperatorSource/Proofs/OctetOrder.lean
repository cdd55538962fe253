import Mathlib.Data.List.Basic

/-!
# The order of texts and the order of their octets

Texts are compared character by character.  Written out in UTF-8 they can also be compared octet by
octet, and this file proves that a lesser text has the lesser octets.  A character is written with
the more octets the greater it is, the first octet says with how many, and the six bits in each
further octet are the digits of the character in base 64; so two different characters differ in an
octet that both have, and the first such octet decides.
-/

namespace OperatorSource.Text

/-- The octets that write a text out. -/
def octets (text : String) : List UInt8 := text.toUTF8.data.toList

theorem octets_eq_flatMap (text : String) :
    octets text = text.toList.flatMap String.utf8EncodeChar := by
  conv => lhs; rw [← String.ofList_toList (s := text)]
  rw [octets, String.toUTF8_eq_toByteArray, String.toByteArray_ofList, List.utf8Encode,
    List.data_toByteArray]

private theorem octet_cons_lt_iff {first second : Nat} (firstSmall : first < 256)
    (secondSmall : second < 256) (firstRest secondRest : List UInt8) :
    UInt8.ofNat first :: firstRest < UInt8.ofNat second :: secondRest ↔
      first < second ∨ first = second ∧ firstRest < secondRest := by
  rw [List.cons_lt_cons_iff, UInt8.lt_iff_toNat_lt, ← UInt8.toNat_inj, UInt8.toNat_ofNat',
    UInt8.toNat_ofNat', Nat.mod_eq_of_lt firstSmall, Nat.mod_eq_of_lt secondSmall]

private theorem toNat_lt_of_char (character : Char) : character.toNat < 0x110000 := by
  have valid := character.valid
  simp only [UInt32.isValidChar, Nat.isValidChar, Char.toNat_val] at valid
  omega

/-- Whatever follows, the octets of a lesser character come first. -/
theorem encode_append_lt {first second : Char} (less : first < second)
    (firstRest secondRest : List UInt8) :
    String.utf8EncodeChar first ++ firstRest < String.utf8EncodeChar second ++ secondRest := by
  have lessCode : first.toNat < second.toNat := less
  have bounded := toNat_lt_of_char second
  -- Of two numbers in base 64, the lesser has the lesser digit where they first differ.
  have middle : first.toNat / 64 < second.toNat / 64 → first.toNat / 4096 < second.toNat / 4096 ∨
      first.toNat / 4096 = second.toNat / 4096 ∧
        first.toNat / 64 % 64 < second.toNat / 64 % 64 := by
    omega
  have leading : first.toNat / 4096 < second.toNat / 4096 →
      first.toNat / 262144 < second.toNat / 262144 ∨
        first.toNat / 262144 = second.toNat / 262144 ∧
          first.toNat / 4096 % 64 < second.toNat / 4096 % 64 := by
    omega
  have firstLeading : first.toNat / 262144 % 8 = first.toNat / 262144 := by omega
  have secondLeading : second.toNat / 262144 % 8 = second.toNat / 262144 := by omega
  unfold String.utf8EncodeChar
  simp only [Char.toNat_val]
  split <;> [skip; split <;> [skip; split]] <;> (split <;> [skip; split <;> [skip; split]])
  all_goals
    simp (disch := omega) only [List.cons_append, List.nil_append, octet_cons_lt_iff]
    omega

theorem flatMap_encode_lt {first second : List Char} (less : first < second) :
    first.flatMap String.utf8EncodeChar < second.flatMap String.utf8EncodeChar := by
  induction first generalizing second with
  | nil =>
      cases second with
      | nil => exact absurd less (List.lt_irrefl _)
      | cons character rest =>
          obtain ⟨octet, octets, written⟩ :=
            List.exists_cons_of_ne_nil (String.utf8EncodeChar_ne_nil (c := character))
          rw [List.flatMap_cons, written]
          exact List.nil_lt_cons _ _
  | cons character rest ih =>
      cases second with
      | nil => exact absurd less (List.not_lt_nil _)
      | cons other others =>
          rw [List.flatMap_cons, List.flatMap_cons]
          rcases List.cons_lt_cons_iff.mp less with lesser | ⟨rfl, lessRest⟩
          · exact encode_append_lt lesser _ _
          · exact List.append_left_lt (ih lessRest)

/-- A lesser text has the lesser octets. -/
theorem octets_lt_of_lt {first second : String} (less : first < second) :
    octets first < octets second := by
  rw [octets_eq_flatMap, octets_eq_flatMap]
  exact flatMap_encode_lt less

end OperatorSource.Text
