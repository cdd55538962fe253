import OperatorSource.Settings.Document
import OperatorSource.Proofs.SpelledReading
import Mathlib.Data.List.Nodup
import Mathlib.Data.Option.Basic

/-!
# Settings documents read back

A settings document has entries for some of the four fields, in any order.  Whatever the document
looks like, the settings read from it have the values of these entries and are the default ones
otherwise.  A document with any other key, or with one key twice, is refused.

Writing settings gives the document with entries for all four fields.  That its text is understood
as the mapping with these entries is all that has to be known about the text.
-/

namespace OperatorSource

open Yaml

namespace Yaml.Writing

/-- What an entry of a written document holds. -/
inductive Content where
  | texts (items : List String)
  | text (value : String)
  | boolean (value : Bool)

namespace Content

/-- The lines of an entry. -/
def written (key : String) : Content → String
  | .texts items => listEntry key items
  | .text value => textEntry key value
  | .boolean value => booleanEntry key value

/-- A tree of what an entry holds. -/
inductive Spells : Content → Tree → Prop
  | texts {items : List String} {tree : Tree} (spelled : SpellsList SpellsText items tree) :
      Spells (.texts items) tree
  | text {value : String} {tree : Tree} (spelled : SpellsText value tree) :
      Spells (.text value) tree
  | boolean {value : Bool} {tree : Tree} (spelled : SpellsBoolean value tree) :
      Spells (.boolean value) tree

end Content

/-- The text of a document with some entries. -/
def document (entries : List (String × Content)) : String :=
  String.join (entries.map fun entry => entry.2.written entry.1)

structure SpellsEntry (entry : String × Content) (node : Entry) : Prop where
  key : SpellsText entry.1 node.2.1
  value : entry.2.Spells node.2.2

/-- A tree is the mapping with some entries, in their order. -/
inductive SpellsMapping (entries : List (String × Content)) : Tree → Prop
  | mapping {mark : Mark} {nodes : List Entry} (each : List.Forall₂ SpellsEntry entries nodes) :
      SpellsMapping entries (.mapping mark none nodes)

/-- The text of a document is understood as the mapping that it was written for. -/
def Faithful (entries : List (String × Content)) : Prop :=
  ∃ tree, Tree.ofText (document entries) = .ok tree ∧ SpellsMapping entries tree

theorem spellsText_quoted (mark : Mark) (text : String) :
    SpellsText text (.scalar mark none .quoted text) := .scalar nofun

theorem Content.exists_spells (content : Content) : ∃ tree, content.Spells tree := by
  let start : Mark := ⟨0, 0, 0⟩
  cases content with
  | texts items =>
      have each : List.Forall₂ SpellsText items (items.map (.scalar start none .quoted)) := by
        rw [List.forall₂_map_right_iff]
        exact List.forall₂_same.mpr fun item _ => spellsText_quoted start item
      exact ⟨.sequence start none _, .texts (.sequence each)⟩
  | text value => exact ⟨_, .text (spellsText_quoted start value)⟩
  | boolean value =>
      have isBoolean : Scalar.boolean? (toString value) = some value := by
        cases value <;> decide
      exact ⟨.scalar start none .plain _, .boolean (.scalar isBoolean)⟩

theorem exists_spellsMapping (entries : List (String × Content)) :
    ∃ tree, SpellsMapping entries tree := by
  let start : Mark := ⟨0, 0, 0⟩
  have each : ∃ nodes, List.Forall₂ SpellsEntry entries nodes := by
    induction entries with
    | nil => exact ⟨[], .nil⟩
    | cons entry rest ih =>
        obtain ⟨value, spelled⟩ := entry.2.exists_spells
        obtain ⟨nodes, spelledRest⟩ := ih
        exact ⟨(none, _, value) :: nodes,
          .cons ⟨spellsText_quoted start entry.1, spelled⟩ spelledRest⟩
  obtain ⟨nodes, each⟩ := each
  exact ⟨.mapping start none nodes, .mapping each⟩

end Yaml.Writing

namespace Settings

open Yaml.Writing

/-- What settings hold in a field. -/
def content (settings : Settings) : String → Content
  | "framework_headers" => .texts settings.frameworkHeaders
  | "namespace" => .text settings.namespaceName
  | "strict_shape_rules" => .boolean settings.strictShapeRules
  | _ => .text settings.placeholder

/-- The entries of a document that holds some fields of settings. -/
def entries (settings : Settings) (names : List String) : List (String × Content) :=
  names.map fun name => (name, settings.content name)

/-- The settings with the same values in some fields, and the default ones in the others. -/
def restricted (settings : Settings) (names : List String) : Settings where
  frameworkHeaders := if "framework_headers" ∈ names then settings.frameworkHeaders
    else ({} : Settings).frameworkHeaders
  namespaceName := if "namespace" ∈ names then settings.namespaceName
    else ({} : Settings).namespaceName
  strictShapeRules := if "strict_shape_rules" ∈ names then settings.strictShapeRules
    else ({} : Settings).strictShapeRules
  placeholder := if "placeholder" ∈ names then settings.placeholder
    else ({} : Settings).placeholder

variable (settings : Settings)

theorem restricted_fields : settings.restricted record.fields = settings := rfl

theorem document_entries_fields :
    document (settings.entries record.fields) = settings.toYaml := by
  simp [document, entries, record, toYaml, String.join, content, Content.written]

/-- A field with the content that settings have in it. -/
def SpellsField (name : String) (tree : Tree) : Prop :=
  name ∈ record.fields ∧ (settings.content name).Spells tree

theorem readsEachField :
    ReadsEachField record settings.SpellsField fun seen state =>
      state = settings.restricted seen := by
  rintro seen _ name tree rfl ⟨known, spelled⟩ unseen
  refine ⟨known, ?_⟩
  simp only [record, List.mem_cons, List.not_mem_nil, or_false] at known
  obtain rfl | rfl | rfl | rfl := known
  · change (Content.texts settings.frameworkHeaders).Spells tree at spelled
    cases spelled with
    | texts spelled =>
        have read : tree.readList Tree.readText = .ok (settings.frameworkHeaders.map id) :=
          spelled.readList fun _ _ _ item => item.readText
        rw [List.map_id] at read
        refine ⟨_, congrArg (Except.map _) read, ?_⟩
        simp [restricted]
  · change (Content.text settings.namespaceName).Spells tree at spelled
    cases spelled with
    | text spelled =>
        refine ⟨_, congrArg (Except.map _) spelled.readText, ?_⟩
        simp [restricted]
  · change (Content.boolean settings.strictShapeRules).Spells tree at spelled
    cases spelled with
    | boolean spelled =>
        refine ⟨_, congrArg (Except.map _) spelled.readBoolean, ?_⟩
        simp [restricted]
  · change (Content.text settings.placeholder).Spells tree at spelled
    cases spelled with
    | text spelled =>
        refine ⟨_, congrArg (Except.map _) spelled.readText, ?_⟩
        simp [restricted]

theorem spellsEntries {names : List String} {nodes : List Entry} (distinct : names.Nodup)
    (known : ∀ name ∈ names, name ∈ record.fields)
    (each : List.Forall₂ SpellsEntry (settings.entries names) nodes) :
    SpellsEntries settings.SpellsField names nodes := by
  induction names generalizing nodes with
  | nil =>
      cases each
      exact .nil
  | cons name names ih =>
      obtain ⟨different, distinctRest⟩ := List.nodup_cons.mp distinct
      rw [List.forall_mem_cons] at known
      cases each with
      | cons entry rest =>
          exact .cons entry.key ⟨known.1, entry.value⟩ different (ih distinctRest known.2 rest)

theorem restricted_reverse (names : List String) :
    settings.restricted names.reverse = settings.restricted names := by
  simp [restricted]

theorem ofTree_of_spellsMapping {names : List String} {tree : Tree} (distinct : names.Nodup)
    (known : ∀ name ∈ names, name ∈ record.fields)
    (spelled : SpellsMapping (settings.entries names) tree) :
    ofTree tree = .ok (settings.restricted names) := by
  have spelledRecord : SpellsRecord settings.SpellsField names tree := by
    obtain ⟨each⟩ := spelled
    exact .mapping (settings.spellsEntries distinct known each)
  have starts : ({} : Settings) = settings.restricted [] := rfl
  obtain ⟨final, rfl, reads⟩ := spelledRecord.readRecord settings.readsEachField starts
  rw [restricted_reverse] at reads
  exact reads rfl

theorem ofYaml_of_spellsMapping {names : List String} {text : String} {tree : Tree}
    (parsed : Tree.ofText text = .ok tree) (distinct : names.Nodup)
    (known : ∀ name ∈ names, name ∈ record.fields)
    (spelled : SpellsMapping (settings.entries names) tree) :
    ofYaml text = .ok (settings.restricted names) := by
  simp only [ofYaml, parsed, settings.ofTree_of_spellsMapping distinct known spelled,
    Except.mapError]

theorem ofYaml_toYaml (faithful : Faithful (settings.entries record.fields)) :
    ofYaml settings.toYaml = .ok settings := by
  obtain ⟨tree, parsed, spelled⟩ := faithful
  rw [document_entries_fields] at parsed
  have reads := settings.ofYaml_of_spellsMapping parsed (by decide) (fun _ => id) spelled
  rwa [restricted_fields] at reads

/-- Some key is not the name of a field, or two keys are the same. -/
def HasBadKey (nodes : List Entry) : Prop :=
  (∃ node ∈ nodes, ∀ name ∈ record.fields, node.2.1.text? ≠ some name) ∨
    ¬ (nodes.map fun node => node.2.1.text?).Nodup

theorem not_hasBadKey_of_ofTree {mark : Mark} {tag : Option Tag} {nodes : List Entry}
    {settings : Settings} (reads : ofTree (.mapping mark tag nodes) = .ok settings) :
    ¬ HasBadKey nodes := by
  obtain ⟨names, keys, distinct, known⟩ := names_of_readRecord reads
  rintro (⟨node, member, stranger⟩ | repeated)
  · have key : node.2.1.text? ∈ names.map some := keys ▸ List.mem_map_of_mem member
    obtain ⟨name, named, same⟩ := List.mem_map.mp key
    exact stranger name (known name named) same.symm
  · exact repeated (keys ▸ distinct.map (Option.some_injective String))

theorem ofYaml_of_hasBadKey {text : String} {mark : Mark} {tag : Option Tag} {nodes : List Entry}
    (parsed : Tree.ofText text = .ok (.mapping mark tag nodes)) (bad : HasBadKey nodes) :
    ∃ fault, ofYaml text = .error (.unparsable (.fault fault)) := by
  cases reads : ofTree (.mapping mark tag nodes) with
  | ok settings => exact absurd bad (not_hasBadKey_of_ofTree reads)
  | error fault =>
      refine ⟨fault, ?_⟩
      simp only [ofYaml, parsed, reads, Except.mapError]

/-- The fields that a document has are read back, in any order, and the others are the default
ones; so written settings are read back if their text is understood as it is meant.  A document with
an unknown or a repeated key is refused, whatever else it holds. -/
theorem reads_back_fields (names : List String) (distinct : names.Nodup)
    (known : ∀ name ∈ names, name ∈ record.fields) :
    (∃ tree, SpellsMapping (settings.entries names) tree) ∧
      (∀ text tree, Tree.ofText text = .ok tree → SpellsMapping (settings.entries names) tree →
        ofYaml text = .ok (settings.restricted names)) ∧
      (Faithful (settings.entries record.fields) → ofYaml settings.toYaml = .ok settings) ∧
      ∀ text mark tag nodes, Tree.ofText text = .ok (.mapping mark tag nodes) →
        HasBadKey nodes → ∃ fault, ofYaml text = .error (.unparsable (.fault fault)) :=
  ⟨exists_spellsMapping _, fun _ _ parsed spelled =>
    settings.ofYaml_of_spellsMapping parsed distinct known spelled, settings.ofYaml_toYaml,
    fun _ _ _ _ => ofYaml_of_hasBadKey⟩

/-- Settings whose texts look like something else, and which have no headers at all. -/
def lookalikes : Settings where
  frameworkHeaders := []
  namespaceName := "true"
  placeholder := "'1.50' # two\n"

def lookalikesTree : Tree := .mapping ⟨0, 0, 0⟩ none
  [(some "framework_headers", .scalar ⟨0, 0, 0⟩ none .plain "framework_headers",
      .sequence ⟨19, 0, 19⟩ none []),
    (some "namespace", .scalar ⟨22, 1, 0⟩ none .plain "namespace",
      .scalar ⟨33, 1, 11⟩ none .quoted "true"),
    (some "strict_shape_rules", .scalar ⟨40, 2, 0⟩ none .plain "strict_shape_rules",
      .scalar ⟨60, 2, 20⟩ none .plain "false"),
    (some "placeholder", .scalar ⟨66, 3, 0⟩ none .plain "placeholder",
      .scalar ⟨79, 3, 13⟩ none .literal "'1.50' # two\n")]

theorem toYaml_lookalikes : lookalikes.toYaml =
    "framework_headers: []\nnamespace: 'true'\nstrict_shape_rules: false\n" ++
      "placeholder: |\n  '1.50' # two\n" := by
  have quoted : scalarLine "true" = "'true'\n" := by
    rw [scalarLine, styleOf, String.contains_char_eq]
    decide +kernel
  have block : scalarLine "'1.50' # two\n" = "|\n  '1.50' # two\n" := by
    rw [scalarLine, styleOf, String.contains_char_eq]
    decide +kernel
  rw [toYaml, textEntry, textEntry]
  change listEntry _ [] ++ (_ ++ ": " ++ scalarLine "true") ++ booleanEntry _ false ++
    (_ ++ ": " ++ scalarLine "'1.50' # two\n") = _
  rw [quoted, block]
  decide +kernel

theorem faithful_lookalikes : Faithful (lookalikes.entries record.fields) := by
  have plain {text : String} (isText : Scalar.ofPlain text = .text text) {mark : Mark} :
      SpellsText text (.scalar mark none .plain text) := .scalar fun _ => isText
  refine ⟨lookalikesTree, ?_, .mapping ?_⟩
  · rw [document_entries_fields, toYaml_lookalikes]
    exact Outcome.eq_ok_of_toOption (by decide +kernel)
  · exact .cons ⟨plain (by decide +kernel), .texts (.sequence .nil)⟩
      (.cons ⟨plain (by decide +kernel), .text (.scalar nofun)⟩
      (.cons ⟨plain (by decide +kernel), .boolean (.scalar (by decide))⟩
      (.cons ⟨plain (by decide +kernel), .text (.scalar nofun)⟩ .nil)))

/-- They are read back, also without two of the fields and in another order. -/
theorem reads_back_lookalikes :
    ofYaml lookalikes.toYaml = .ok lookalikes ∧
      ofYaml "placeholder: \"'1.50' # two\\n\"\nframework_headers: []\n" =
        .ok { lookalikes with namespaceName := "tensorflow" } ∧
      ∃ fault, ofYaml "namespace: a\nplaceholder: b\n\"namespace\": c\n" =
        .error (.unparsable (.fault fault)) := by
  obtain ⟨-, readsChosen, readsAll, refuses⟩ :=
    reads_back_fields lookalikes ["placeholder", "framework_headers"] (by decide) (by decide)
  have chosen : Tree.ofText "placeholder: \"'1.50' # two\\n\"\nframework_headers: []\n" =
      .ok (.mapping ⟨0, 0, 0⟩ none
        [(some "placeholder", .scalar ⟨0, 0, 0⟩ none .plain "placeholder",
            .scalar ⟨13, 0, 13⟩ none .quoted "'1.50' # two\n"),
          (some "framework_headers", .scalar ⟨30, 1, 0⟩ none .plain "framework_headers",
            .sequence ⟨49, 1, 19⟩ none [])]) :=
    Outcome.eq_ok_of_toOption (by decide +kernel)
  have repeated : Tree.ofText "namespace: a\nplaceholder: b\n\"namespace\": c\n" =
      .ok (.mapping ⟨0, 0, 0⟩ none
        [(some "namespace", .scalar ⟨0, 0, 0⟩ none .plain "namespace",
            .scalar ⟨11, 0, 11⟩ none .plain "a"),
          (some "placeholder", .scalar ⟨13, 1, 0⟩ none .plain "placeholder",
            .scalar ⟨26, 1, 13⟩ none .plain "b"),
          (some "namespace", .scalar ⟨28, 2, 0⟩ none .quoted "namespace",
            .scalar ⟨41, 2, 13⟩ none .plain "c")]) :=
    Outcome.eq_ok_of_toOption (by decide +kernel)
  refine ⟨readsAll faithful_lookalikes, readsChosen _ _ chosen ?_,
    refuses _ _ _ _ repeated (.inr (by decide))⟩
  exact .mapping (.cons ⟨.scalar fun _ => by decide +kernel, .text (.scalar nofun)⟩
    (.cons ⟨.scalar fun _ => by decide +kernel, .texts (.sequence .nil)⟩ .nil))

end Settings

end OperatorSource
