import Mathlib.Data.List.Basic

/-!
# Nested brackets

Round and curly brackets, taken together, are nested if each closing one belongs to the opening one
that was left open last.  Nested texts can be put one behind the other or between brackets.  Nothing
but the brackets matters, so blanks may be added anywhere.  A nested text opens as many curly
brackets as it closes, and never begins by closing one.
-/

namespace OperatorSource.Bracket

/-- An opening bracket and the one that closes it. -/
inductive Pair : Char → Char → Prop
  | round : Pair '(' ')'
  | curly : Pair '\x7b' '\x7d'

def isBracket (character : Char) : Bool :=
  character == '(' || character == ')' || character == '\x7b' || character == '\x7d'

inductive Nested : List Char → Prop
  | nil : Nested []
  | plain {character : Char} {rest : List Char} (noBracket : isBracket character = false)
      (nested : Nested rest) : Nested (character :: rest)
  | enclosed {opening closing : Char} {inner rest : List Char} (pair : Pair opening closing)
      (innerNested : Nested inner) (restNested : Nested rest) :
      Nested (opening :: (inner ++ closing :: rest))

theorem Nested.append {first second : List Char} (firstNested : Nested first)
    (secondNested : Nested second) : Nested (first ++ second) := by
  induction firstNested with
  | nil => exact secondNested
  | plain noBracket _ ih => exact .plain noBracket ih
  | enclosed pair innerNested _ _ ih =>
      rw [List.cons_append, List.append_assoc]
      exact .enclosed pair innerNested ih

/-- Whether the rest of a text closes the brackets that are left open, the last one first, and is
nested apart from that. -/
def closes : List Char → List Char → Bool
  | left, [] => left.isEmpty
  | left, character :: rest =>
    if character = '(' then closes (')' :: left) rest
    else if character = '\x7b' then closes ('\x7d' :: left) rest
    else if isBracket character then left.head? == some character && closes left.tail rest
    else closes left rest

theorem closes_plain {character : Char} (noBracket : isBracket character = false)
    (left rest : List Char) : closes left (character :: rest) = closes left rest := by
  have noRound : character ≠ '(' := by
    rintro rfl
    exact nomatch noBracket
  have noCurly : character ≠ '\x7b' := by
    rintro rfl
    exact nomatch noBracket
  rw [closes, if_neg noRound, if_neg noCurly, noBracket, if_neg Bool.false_ne_true]

theorem closes_opening {opening closing : Char} (pair : Pair opening closing)
    (left rest : List Char) : closes left (opening :: rest) = closes (closing :: left) rest := by
  cases pair <;> rfl

theorem closes_closing {opening closing : Char} (pair : Pair opening closing)
    (left rest : List Char) : closes (closing :: left) (closing :: rest) = closes left rest := by
  cases pair <;> rfl

theorem Nested.closes_append {text : List Char} (nested : Nested text) (left rest : List Char) :
    closes left (text ++ rest) = closes left rest := by
  induction nested generalizing left rest with
  | nil => rfl
  | plain noBracket _ ih => rw [List.cons_append, closes_plain noBracket, ih]
  | enclosed pair _ _ innerIh restIh =>
      rw [List.cons_append, closes_opening pair, List.append_assoc, innerIh, List.cons_append,
        closes_closing pair, restIh]

/-- A text is nested up to the brackets that close those left open. -/
def NestedBefore : List Char → List Char → Prop
  | [], text => Nested text
  | expected :: left, text => ∃ inner rest,
      text = inner ++ expected :: rest ∧ Nested inner ∧ NestedBefore left rest

theorem NestedBefore.prepend {left first second : List Char} (nested : Nested first)
    (before : NestedBefore left second) : NestedBefore left (first ++ second) := by
  cases left with
  | nil => exact nested.append before
  | cons expected left =>
      obtain ⟨inner, rest, rfl, innerNested, restBefore⟩ := before
      exact ⟨first ++ inner, rest, (List.append_assoc ..).symm, nested.append innerNested,
        restBefore⟩

theorem NestedBefore.open {opening closing : Char} (pair : Pair opening closing)
    {left rest : List Char} (before : NestedBefore (closing :: left) rest) :
    NestedBefore left (opening :: rest) := by
  obtain ⟨inner, rest, rfl, innerNested, restBefore⟩ := before
  have enclosed : Nested (opening :: (inner ++ [closing])) := .enclosed pair innerNested .nil
  simpa using restBefore.prepend enclosed

theorem nestedBefore_of_closes {left text : List Char} (read : closes left text = true) :
    NestedBefore left text := by
  fun_induction closes left text with
  | case1 left =>
      obtain rfl := List.isEmpty_iff.mp read
      exact .nil
  | case2 left rest ih => exact (ih read).open .round
  | case3 left rest _ ih => exact (ih read).open .curly
  | case4 left character rest _ _ _ ih =>
      rw [Bool.and_eq_true, beq_iff_eq] at read
      obtain ⟨outer, rfl⟩ := List.head?_eq_some_iff.mp read.1
      exact ⟨[], rest, rfl, .nil, ih read.2⟩
  | case5 left character rest _ _ noBracket ih =>
      exact (ih read).prepend (.plain (eq_false_of_ne_true noBracket) .nil)

theorem closes_iff_nested {text : List Char} : closes [] text = true ↔ Nested text := by
  refine ⟨nestedBefore_of_closes, fun nested => ?_⟩
  have read := nested.closes_append [] []
  rwa [List.append_nil] at read

instance (text : List Char) : Decidable (Nested text) := decidable_of_iff _ closes_iff_nested

theorem closes_filter (left text : List Char) :
    closes left (text.filter isBracket) = closes left text := by
  induction text generalizing left with
  | nil => rfl
  | cons character rest ih =>
      cases bracket : isBracket character with
      | true => rw [List.filter_cons_of_pos bracket, closes, closes, ih, ih, ih, ih]
      | false => rw [List.filter_cons_of_neg (by simp [bracket]), closes_plain bracket, ih]

theorem Nested.congr {first second : List Char} (nested : Nested first)
    (same : first.filter isBracket = second.filter isBracket) : Nested second := by
  rw [← closes_iff_nested] at nested ⊢
  rwa [← closes_filter, ← same, closes_filter]

theorem Nested.count_curly {text : List Char} (nested : Nested text) :
    text.count '\x7b' = text.count '\x7d' := by
  induction nested with
  | nil => rfl
  | @plain character rest noBracket _ ih =>
      have noOpening : character ≠ '\x7b' := by
        rintro rfl
        exact nomatch noBracket
      have noClosing : character ≠ '\x7d' := by
        rintro rfl
        exact nomatch noBracket
      rw [List.count_cons_of_ne noOpening, List.count_cons_of_ne noClosing, ih]
  | enclosed pair _ _ innerIh restIh =>
      cases pair with
      | round => simp [innerIh, restIh]
      | curly =>
          simp [innerIh, restIh]
          omega

theorem Nested.head_ne_closing {text : List Char} (nested : Nested text) :
    text.head? ≠ some '\x7d' := by
  cases nested with
  | nil => nofun
  | plain noBracket =>
      rintro ⟨rfl⟩
      exact nomatch noBracket
  | enclosed pair =>
      rintro ⟨rfl⟩
      cases pair

end OperatorSource.Bracket
