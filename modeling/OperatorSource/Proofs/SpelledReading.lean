import OperatorSource.Yaml.Decoding
import OperatorSource.Proofs.NumberReading
import OperatorSource.Proofs.Outcomes
import Mathlib.Data.List.Forall2

/-!
# Reading what a document spells

A tree spells a text, a number, a list, a list of pairs or a record if it is written the plain way,
whatever its positions and the styles of its texts.  Typed reading gives back what is spelled.  The
fields of a record may stand in any order: a record is read field by field, so whatever holds of the
fields read so far, and is kept by each one, holds of them all.
-/

namespace OperatorSource.Yaml

open OperatorSource.Yaml.Tree

/-- An entry of a mapping, with the text of its key. -/
abbrev Entry := Option String × Tree × Tree

/-- A text is an untagged scalar that means a text. -/
inductive SpellsText (text : String) : Tree → Prop
  | scalar {mark : Mark} {style : ScalarStyle}
      (isText : style = .plain → Scalar.ofPlain text = .text text) :
      SpellsText text (.scalar mark none style text)

/-- A number is written in decimal. -/
inductive SpellsNumber (number : Nat) : Tree → Prop
  | scalar {mark : Mark} : SpellsNumber number (.scalar mark none .plain (toString number))

/-- A boolean is one of its spellings. -/
inductive SpellsBoolean (value : Bool) : Tree → Prop
  | scalar {mark : Mark} {text : String} (isBoolean : Scalar.boolean? text = some value) :
      SpellsBoolean value (.scalar mark none .plain text)

/-- A list is a sequence that spells its items one by one. -/
inductive SpellsList {α : Type} (spells : α → Tree → Prop) (items : List α) : Tree → Prop
  | sequence {mark : Mark} {trees : List Tree} (each : List.Forall₂ spells items trees) :
      SpellsList spells items (.sequence mark none trees)

/-- An entry of a mapping from names to texts. -/
structure SpellsPair (pair : String × String) (entry : Entry) : Prop where
  key : SpellsText pair.1 entry.2.1
  value : SpellsText pair.2 entry.2.2

/-- Pairs are the entries of a mapping, in order. -/
inductive SpellsPairs (pairs : List (String × String)) : Tree → Prop
  | mapping {mark : Mark} {entries : List Entry} (each : List.Forall₂ SpellsPair pairs entries) :
      SpellsPairs pairs (.mapping mark none entries)

/-- Entries with different names; what a value spells goes by the name of its entry. -/
inductive SpellsEntries (spells : String → Tree → Prop) : List String → List Entry → Prop
  | nil : SpellsEntries spells [] []
  | cons {name : String} {names : List String} {key : Option String} {nameTree value : Tree}
      {entries : List Entry} (named : SpellsText name nameTree) (valued : spells name value)
      (different : name ∉ names) (rest : SpellsEntries spells names entries) :
      SpellsEntries spells (name :: names) ((key, nameTree, value) :: entries)

/-- A record is a mapping with the fields of some names, in their order there. -/
inductive SpellsRecord (spells : String → Tree → Prop) (names : List String) : Tree → Prop
  | mapping {mark : Mark} {entries : List Entry} (each : SpellsEntries spells names entries) :
      SpellsRecord spells names (.mapping mark none entries)

namespace Scalar

open NumberReading

theorem digit?_ten {character : Char} (digit : character.isDigit = true) :
    digit? 10 character = some (character.toNat - '0'.toNat) := by
  have bounds : '0'.toNat ≤ character.toNat ∧ character.toNat ≤ '9'.toNat :=
    Char.isDigit_iff_toNat.mp digit
  have nine : '9'.toNat = '0'.toNat + 9 := rfl
  have small : character.toNat - '0'.toNat < 10 := by omega
  simp only [digit?, digit, if_true, Option.filter_some, small, decide_true]

theorem digits?_ten {characters : List Char} (nonempty : characters ≠ [])
    (digits : ∀ character ∈ characters, character.isDigit = true) :
    digits? 10 characters = some (Nat.ofDigitChars 10 characters 0) := by
  have folds (start : Nat) :
      characters.foldlM (fun number digit => (digit? 10 digit).map (10 * number + ·)) start =
        some (Nat.ofDigitChars 10 characters start) := by
    clear nonempty
    induction characters generalizing start with
    | nil => rfl
    | cons first rest ih =>
        have restDigits : ∀ character ∈ rest, character.isDigit = true := fun character member =>
          digits character (List.mem_cons_of_mem first member)
        rw [List.foldlM_cons, digit?_ten (digits first List.mem_cons_self)]
        exact ih restDigits _
  rw [digits?]
  · exact folds 0
  · exact nonempty

variable (number : Nat)

theorem toString_ne_cons {first : Char} (noDigit : first.isDigit = false) (rest : List Char) :
    (toString number).toList ≠ first :: rest := by
  intro written
  have digit : first.isDigit = true :=
    @isDigit_of_mem_toString number first (written ▸ List.mem_cons_self)
  exact Bool.false_ne_true (noDigit.symm.trans digit)

theorem toString_ne_cons_cons {second : Char} (noDigit : second.isDigit = false) (first : Char)
    (rest : List Char) : (toString number).toList ≠ first :: second :: rest := by
  intro written
  have digit : second.isDigit = true :=
    @isDigit_of_mem_toString number second (written ▸ List.mem_cons_of_mem first List.mem_cons_self)
  exact Bool.false_ne_true (noDigit.symm.trans digit)

theorem withoutSign_toString :
    withoutSign (toString number).toList = (toString number).toList := by
  unfold withoutSign
  split
  · exact absurd ‹_› (toString_ne_cons number (by decide) _)
  · exact absurd ‹_› (toString_ne_cons number (by decide) _)
  · rfl

theorem hasLeadingZero_toString : hasLeadingZero (toString number).toList = false := by
  rw [hasLeadingZero, withoutSign_toString]
  split
  · rename_i second rest written
    have zero : number = 0 := eq_zero_of_head?_toString (by rw [written]; rfl)
    subst zero
    exact nomatch written
  · rfl

theorem magnitude?_toString : magnitude? (toString number).toList = some number := by
  have digits : ∀ character ∈ (toString number).toList, character.isDigit = true :=
    fun _ => isDigit_of_mem_toString
  unfold magnitude?
  split
  · exact absurd ‹_› (toString_ne_cons_cons number (by decide) '0' _)
  · exact absurd ‹_› (toString_ne_cons_cons number (by decide) '0' _)
  · exact absurd ‹_› (toString_ne_cons_cons number (by decide) '0' _)
  · rw [digits?_ten (toString_toList_ne_nil number) digits, Nat.toString_eq_repr,
      Nat.toList_repr, Nat.ofDigitChars_ten_toDigits]

theorem natural?_toString : natural? (toString number).toList = some number := by
  unfold natural?
  rw [hasLeadingZero_toString]
  split
  · contradiction
  split
  · exact absurd ‹_› (toString_ne_cons number (by decide) _)
  · exact magnitude?_toString number

end Scalar

theorem SpellsText.readText {text : String} {tree : Tree} (spelled : SpellsText text tree) :
    tree.readText = .ok text := by
  cases spelled
  rfl

theorem SpellsText.readValue {text : String} {tree : Tree} (spelled : SpellsText text tree) :
    tree.readValue = .ok (.text text) := by
  obtain ⟨isText⟩ := spelled
  rename_i mark style
  have meaning : scalarMeaning none style text = .ok (.text text) := by
    by_cases plain : style = .plain
    · simp only [scalarMeaning, plain, if_true, isText plain]
    · simp only [scalarMeaning, plain, if_false]
  rw [Tree.readValue, readScalar, meaning]
  rfl

theorem SpellsNumber.readUnsigned {number : Nat} {tree : Tree} (spelled : SpellsNumber number tree)
    (small : number ≤ Scalar.maxUnsigned) : tree.readUnsigned = .ok number := by
  obtain ⟨⟩ := spelled
  have meaning : unsigned? (toString number) = some number := by
    simp only [unsigned?, Scalar.natural?_toString, Option.filter_some, small, decide_true, if_true]
  simp only [Tree.readUnsigned, readPlain, true_or, if_true, meaning]

theorem SpellsNumber.readSigned {number : Nat} {tree : Tree} (spelled : SpellsNumber number tree)
    (small : number ≤ Scalar.maxSigned) : tree.readSigned = .ok (Int64.ofNat number) := by
  obtain ⟨⟩ := spelled
  have meaning : signed? (toString number) = some (Int64.ofNat number) := by
    simp only [signed?, Scalar.natural?_toString, small, if_true]
  simp only [Tree.readSigned, readPlain, true_or, if_true, meaning]

theorem SpellsBoolean.readBoolean {value : Bool} {tree : Tree}
    (spelled : SpellsBoolean value tree) : tree.readBoolean = .ok value := by
  obtain ⟨isBoolean⟩ := spelled
  simp only [Tree.readBoolean, readPlain, true_or, if_true, isBoolean]

section Lists

variable {α β : Type} {spells : α → Tree → Prop} {read : Tree → Except Fault β} {meaning : α → β}
  {items : List α}

theorem readItems_of_spelled {trees : List Tree} (each : List.Forall₂ spells items trees)
    (reads : ∀ item ∈ items, ∀ tree, spells item tree → read tree = .ok (meaning item))
    (index : Nat) : readItems read index trees = .ok (items.map meaning) := by
  induction each generalizing index with
  | nil => rfl
  | @cons item tree items trees spelled rest ih =>
      have readsRest : ∀ item ∈ items, ∀ tree, spells item tree → read tree = .ok (meaning item) :=
        fun item member => reads item (List.mem_cons_of_mem _ member)
      rw [readItems, reads item List.mem_cons_self tree spelled, ih readsRest]
      rfl

theorem SpellsList.readList {tree : Tree} (spelled : SpellsList spells items tree)
    (reads : ∀ item ∈ items, ∀ tree, spells item tree → read tree = .ok (meaning item)) :
    tree.readList read = .ok (items.map meaning) := by
  obtain ⟨each⟩ := spelled
  rw [Tree.readList, readItems_of_spelled each reads]
  rfl

theorem SpellsList.readOptional {tree : Tree} (spelled : SpellsList spells items tree)
    (reads : ∀ item ∈ items, ∀ tree, spells item tree → read tree = .ok (meaning item)) :
    tree.readOptional (Tree.readList read) = .ok (some (items.map meaning)) := by
  have found := spelled.readList reads
  obtain ⟨each⟩ := spelled
  exact congrArg (some <$> ·) found

end Lists

def textPair (pair : String × String) : Value × Value := (.text pair.1, .text pair.2)

theorem readEntries_of_spelled {pairs : List (String × String)} {entries : List Entry}
    (each : List.Forall₂ SpellsPair pairs entries) (distinct : (pairs.map Prod.fst).Nodup)
    {seen : List String} (fresh : ∀ pair ∈ pairs, pair.1 ∉ seen) :
    readEntries (seen.map .text) entries = .ok (pairs.map textPair) := by
  induction each generalizing seen with
  | nil => rw [readEntries]; rfl
  | @cons pair entry pairs entries spelled rest ih =>
      obtain ⟨name, key, value⟩ := entry
      rw [List.map_cons, List.nodup_cons] at distinct
      -- Texts are the same key only if they are equal, so no earlier key is in the way.
      have unseen : pair.1 ∉ seen := fresh pair List.mem_cons_self
      have notFound : (seen.map Value.text).find? (fun earlier => earlier.same (.text pair.1)) =
          none := by
        rw [List.find?_eq_none]
        intro earlier member
        obtain ⟨text, textSeen, rfl⟩ := List.mem_map.mp member
        have different : text ≠ pair.1 := fun same => unseen (same ▸ textSeen)
        simp [Value.same, different]
      have freshRest : ∀ later ∈ pairs, later.1 ∉ pair.1 :: seen := by
        intro later member taken
        rcases List.mem_cons.mp taken with same | taken
        · exact distinct.1 (same ▸ List.mem_map_of_mem member)
        · exact fresh later (List.mem_cons_of_mem pair member) taken
      have restRead := ih distinct.2 freshRest
      rw [List.map_cons] at restRead
      simp only [readEntries, spelled.key.readValue, spelled.value.readValue, notFound, restRead,
        inside, Except.mapError, bind, Except.bind, pure, Except.pure, List.map_cons, textPair]

theorem SpellsPairs.readMapping {pairs : List (String × String)} {tree : Tree}
    (spelled : SpellsPairs pairs tree) (distinct : (pairs.map Prod.fst).Nodup) :
    tree.readMapping = .ok (pairs.map textPair) := by
  obtain ⟨each⟩ := spelled
  have read := @readEntries_of_spelled _ _ each distinct [] fun _ _ => List.not_mem_nil
  rw [List.map_nil] at read
  rw [Tree.readMapping, read]
  rfl

theorem SpellsPairs.readValue {pairs : List (String × String)} {tree : Tree}
    (spelled : SpellsPairs pairs tree) (distinct : (pairs.map Prod.fst).Nodup) :
    tree.readValue = .ok (.mapping (pairs.map textPair)) := by
  obtain ⟨each⟩ := spelled
  have read := @readEntries_of_spelled _ _ each distinct [] fun _ _ => List.not_mem_nil
  rw [List.map_nil] at read
  rw [Tree.readValue, read]
  rfl

section Records

variable {σ : Type} {record : Record σ} {spells : String → Tree → Prop}
  {holds : List String → σ → Prop}

/-- Each spelled field can be read, and what holds of the fields before it then holds of it too. -/
def ReadsEachField (record : Record σ) (spells : String → Tree → Prop)
    (holds : List String → σ → Prop) : Prop :=
  ∀ {seen : List String} {state : σ} {name : String} {value : Tree}, holds seen state →
    spells name value → name ∉ seen →
      name ∈ record.fields ∧ ∃ next, record.read name value state = .ok next ∧
        holds (name :: seen) next

theorem readFields_of_spelled (step : ReadsEachField record spells holds) {names : List String}
    {entries : List Entry} (spelled : SpellsEntries spells names entries) {seen : List String}
    {state : σ} (fresh : ∀ name ∈ names, name ∉ seen) (start : holds seen state) :
    ∃ final, readFields record seen state entries = .ok final ∧
      holds (names.reverse ++ seen) final := by
  induction spelled generalizing seen state with
  | nil => exact ⟨state, rfl, start⟩
  | @cons name names key nameTree value entries named valued different rest ih =>
      have unseen : name ∉ seen := fresh name List.mem_cons_self
      obtain ⟨known, next, reads, nextHolds⟩ := step start valued unseen
      have freshRest : ∀ later ∈ names, later ∉ name :: seen := by
        intro later member taken
        rcases List.mem_cons.mp taken with rfl | taken
        · exact different member
        · exact fresh later (List.mem_cons_of_mem name member) taken
      obtain ⟨final, readsRest, finalHolds⟩ := ih freshRest nextHolds
      refine ⟨final, ?_, ?_⟩
      · have field : readFieldName record.fields nameTree = .ok name := by
          cases named
          exact if_pos known
        simp only [readFields, field, bind, Except.bind, unseen, if_false, reads, inside,
          Except.mapError, readsRest]
      · simpa using finalHolds

theorem SpellsRecord.readRecord (step : ReadsEachField record spells holds) {names : List String}
    {tree : Tree} (spelled : SpellsRecord spells names tree) {start : σ} (starts : holds [] start) :
    ∃ final, holds names.reverse final ∧ ∀ {α : Type} {finish : σ → Except Mismatch α} {value : α},
      finish final = .ok value → tree.readRecord record start finish = .ok value := by
  obtain ⟨each⟩ := spelled
  obtain ⟨final, reads, finalHolds⟩ :=
    readFields_of_spelled step each (fun _ _ => List.not_mem_nil) starts
  rw [List.append_nil] at finalHolds
  refine ⟨final, finalHolds, fun finishes => ?_⟩
  simp only [Tree.readRecord, reads, bind, Except.bind, finishes, Except.mapError, placedAt]

/-! ## Which keys a record may have -/

/-- The text of a scalar. -/
def Tree.text? : Tree → Option String
  | .scalar _ _ _ text => some text
  | .sequence _ _ _ | .mapping _ _ _ | .limited _ => none

theorem readFieldName_eq_ok_iff {fields : List String} {tree : Tree} {name : String} :
    readFieldName fields tree = .ok name ↔ tree.text? = some name ∧ name ∈ fields := by
  cases tree with
  | scalar mark tag style text =>
      by_cases known : text ∈ fields
      · simp only [readFieldName, known, if_true, Except.ok.injEq, Tree.text?, Option.some.injEq]
        exact ⟨fun same => ⟨same, same ▸ known⟩, And.left⟩
      · simp only [readFieldName, known, if_false, placedAt, Except.mapError, Tree.text?,
          Option.some.injEq]
        exact ⟨nofun, fun both => absurd (both.1 ▸ both.2) known⟩
  | sequence mark tag items => exact ⟨nofun, nofun⟩
  | mapping mark tag entries => exact ⟨nofun, nofun⟩
  | limited reached => exact ⟨nofun, nofun⟩

theorem names_of_readFields {seen : List String} {state final : σ} {entries : List Entry}
    (reads : readFields record seen state entries = .ok final) :
    ∃ names : List String, entries.map (fun entry => entry.2.1.text?) = names.map some ∧
      names.Nodup ∧ ∀ name ∈ names, name ∈ record.fields ∧ name ∉ seen := by
  induction entries generalizing seen state with
  | nil => exact ⟨[], rfl, List.nodup_nil, by simp⟩
  | cons entry rest ih =>
      obtain ⟨key, nameTree, value⟩ := entry
      rw [readFields, Outcome.bind_eq_ok_iff] at reads
      obtain ⟨name, field, reads⟩ := reads
      obtain ⟨named, known⟩ := readFieldName_eq_ok_iff.mp field
      by_cases repeated : name ∈ seen
      · rw [if_pos repeated] at reads
        exact nomatch reads
      rw [if_neg repeated, Outcome.bind_eq_ok_iff] at reads
      obtain ⟨next, _, readsRest⟩ := reads
      obtain ⟨names, keys, distinct, fresh⟩ := ih readsRest
      refine ⟨name :: names, by rw [List.map_cons, List.map_cons, keys, named], ?_, ?_⟩
      · exact List.nodup_cons.mpr
          ⟨fun again => (fresh name again).2 List.mem_cons_self, distinct⟩
      · intro other member
        rcases List.mem_cons.mp member with rfl | later
        · exact ⟨known, repeated⟩
        · exact ⟨(fresh other later).1, fun old =>
            (fresh other later).2 (List.mem_cons_of_mem name old)⟩

/-- A mapping that is read as a record has the names of different fields as its keys. -/
theorem names_of_readRecord {α : Type} {mark : Mark} {tag : Option Tag} {entries : List Entry}
    {start : σ} {finish : σ → Except Mismatch α} {value : α}
    (reads : (Tree.mapping mark tag entries).readRecord record start finish = .ok value) :
    ∃ names : List String, entries.map (fun entry => entry.2.1.text?) = names.map some ∧
      names.Nodup ∧ ∀ name ∈ names, name ∈ record.fields := by
  rw [Tree.readRecord, placedAt, Outcome.mapError_eq_ok_iff,
    Outcome.bind_eq_ok_iff] at reads
  obtain ⟨final, readsFields, _⟩ := reads
  obtain ⟨names, keys, distinct, known⟩ := names_of_readFields readsFields
  exact ⟨names, keys, distinct, fun name member => (known name member).1⟩

end Records

end OperatorSource.Yaml
