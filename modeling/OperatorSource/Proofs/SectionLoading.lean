import OperatorSource.Proofs.RuleLoading

/-!
# Loading the sections of a specification

The attributes, inputs and outputs of a specification may be written as any values.  This file says
which values are taken for what: an attribute is a text, or one of the forms that declare a
composite kind; an input or an output is a single pair of texts.  Where a text is asked for, tags in
front of it do not matter, but a tagged value is not itself a text, list or mapping.

All entries are loaded in order, and the sections one after the other; the first entry that has no
such form is reported.
-/

namespace OperatorSource

open Yaml (Value)

namespace Yaml.Value

/-- A value is a text, perhaps behind tags. -/
inductive IsText (text : String) : Value → Prop
  | untagged : IsText text (.text text)
  | tagged {tag : String} {value : Value} (inner : IsText text value) :
      IsText text (.tagged tag value)

theorem text?_eq_some_iff {value : Value} {text : String} :
    value.text? = some text ↔ value.IsText text := by
  constructor
  · intro found
    fun_induction text? value with
    | case1 other =>
        obtain rfl := Option.some.inj found
        exact .untagged
    | case2 tag value ih => exact .tagged (ih found)
    | case3 value => exact nomatch found
  · intro isText
    induction isText with
    | untagged => rfl
    | tagged inner ih => exact ih

theorem text?_eq_none_iff {value : Value} :
    value.text? = none ↔ ∀ text, ¬ value.IsText text := by
  simp only [Option.eq_none_iff_forall_ne_some, ne_eq, text?_eq_some_iff]

end Yaml.Value

theorem Composite.ofKeyword?_eq_some_iff {text : String} {kind : Composite} :
    ofKeyword? text = some kind ↔ text = kind.keyword := by
  constructor
  · intro found
    unfold ofKeyword? at found
    split at found <;> cases found <;> rfl
  · rintro rfl
    cases kind <;> rfl

namespace AttributeKind

/-- The kind that a value declares.  A tag may have any number of exclamation marks before its
keyword. -/
inductive GivenBy : Value → AttributeKind → Prop
  | scalar {tag : String} : GivenBy (.text tag) (.scalar tag)
  | list {items : List Value} : GivenBy (.sequence items) (.composite .list)
  | keyed {kind : Composite} {key value : Value} (keyword : key.IsText kind.keyword) :
      GivenBy (.mapping [(key, value)]) (.composite kind)
  | tagged {kind : Composite} {tag : String} {value : Value} (marks : Nat)
      (keyword : tag.toList = List.replicate marks '!' ++ kind.keyword.toList) :
      GivenBy (.tagged tag value) (.composite kind)

theorem dropWhile_marks_eq_iff {characters rest : List Char} (unmarked : rest.head? ≠ some '!') :
    characters.dropWhile (fun character => character == '!') = rest ↔
      ∃ marks, characters = List.replicate marks '!' ++ rest := by
  induction characters with
  | nil =>
      constructor
      · rintro rfl
        exact ⟨0, rfl⟩
      · rintro ⟨marks, split⟩
        exact (List.append_eq_nil_iff.mp split.symm).2.symm
  | cons character others ih =>
      by_cases mark : character = '!'
      · subst mark
        rw [List.dropWhile_cons_of_pos rfl, ih]
        constructor
        · rintro ⟨marks, rfl⟩
          exact ⟨marks + 1, by rw [List.replicate_succ, List.cons_append]⟩
        · rintro ⟨marks, split⟩
          cases marks with
          | zero =>
              -- Then the mark belongs to the rest, which has none at its head.
              rw [List.replicate_zero, List.nil_append] at split
              exact absurd (split ▸ rfl) unmarked
          | succ marks => exact ⟨marks, (List.cons.inj split).2⟩
      · rw [List.dropWhile_cons_of_neg (by simpa using mark)]
        constructor
        · rintro rfl
          exact ⟨0, rfl⟩
        · rintro ⟨marks, split⟩
          cases marks with
          | zero => exact split
          | succ marks => exact absurd (List.cons.inj split).1 mark

theorem composite?_eq_some_iff {value : Value} {kind : Composite} :
    composite? value = some kind ↔ GivenBy value (.composite kind) := by
  have unmarked : kind.keyword.toList.head? ≠ some '!' := by cases kind <;> decide
  constructor
  · fun_cases composite? value with
    | case1 items =>
        intro found
        obtain rfl := Option.some.inj found
        exact .list
    | case2 entry =>
        intro found
        obtain ⟨text, key, keyword⟩ := Option.bind_eq_some_iff.mp found
        obtain rfl := Composite.ofKeyword?_eq_some_iff.mp keyword
        exact .keyed (Value.text?_eq_some_iff.mp key)
    | case3 tag inner =>
        intro found
        have rest := congrArg String.toList (Composite.ofKeyword?_eq_some_iff.mp found)
        rw [String.toList_ofList, dropWhile_marks_eq_iff unmarked] at rest
        obtain ⟨marks, keyword⟩ := rest
        exact .tagged marks keyword
    | case4 other => exact nofun
  · intro given
    cases given with
    | list => rfl
    | keyed keyword =>
        exact Option.bind_eq_some_iff.mpr ⟨_, Value.text?_eq_some_iff.mpr keyword,
          Composite.ofKeyword?_eq_some_iff.mpr rfl⟩
    | tagged marks keyword =>
        refine Composite.ofKeyword?_eq_some_iff.mpr (String.toList_inj.mp ?_)
        rw [String.toList_ofList, dropWhile_marks_eq_iff unmarked]
        exact ⟨marks, keyword⟩

theorem ofValue_eq_ok_iff {name : String} {value : Value} {kind : AttributeKind} :
    ofValue name value = .ok kind ↔ GivenBy value kind := by
  fun_cases ofValue name value with
  | case1 tag =>
      constructor
      · rintro ⟨⟩
        exact .scalar
      · rintro ⟨⟩
        rfl
  | case2 other notText found composite =>
      constructor
      · rintro ⟨⟩
        exact composite?_eq_some_iff.mp composite
      · intro given
        cases kind with
        | scalar tag =>
            cases given
            exact absurd rfl (notText tag)
        | composite kind =>
            have same := composite.symm.trans (composite?_eq_some_iff.mpr given)
            rw [Option.some.inj same]
  | case3 other notText none =>
      refine ⟨nofun, fun given => ?_⟩
      cases kind with
      | scalar tag =>
          cases given
          exact absurd rfl (notText tag)
      | composite kind => exact nomatch none.symm.trans (composite?_eq_some_iff.mpr given)

theorem ofValue_eq_error_iff {name : String} {value : Value} : ∀ error,
    ofValue name value = .error error ↔ (∀ kind, ¬ GivenBy value kind) ∧
      error = .unsupportedAttribute name (.notTag (.ofValue value)) := by
  apply Outcome.eq_error_iff_of_reports
  · rintro _ ⟨noKind, rfl⟩
    fun_cases ofValue name value with
    | case1 tag => exact absurd .scalar (noKind (.scalar tag))
    | case2 other notText kind composite =>
        exact absurd (composite?_eq_some_iff.mp composite) (noKind _)
    | case3 other notText none => rfl
  · intro sound
    by_contra noKind
    refine sound _ ⟨fun kind given => noKind ?_, rfl⟩
    exact ⟨kind, ofValue_eq_ok_iff.mpr given⟩

end AttributeKind

namespace AttributeDeclaration

/-- The attribute that an entry declares. -/
structure GivenBy (entry : Value × Value) (declaration : AttributeDeclaration) : Prop where
  name : entry.1.IsText declaration.name
  kind : declaration.kind.GivenBy entry.2

/-- What is reported of an entry.  Its value does not matter if its key is not a text. -/
inductive Refused (entry : Value × Value) : RequestError → Prop
  | nameless (noText : ∀ text, ¬ entry.1.IsText text) :
      Refused entry (.malformedEntry (.attributeNameNotString (.ofValue entry.1)))
  | kindless {name : String} (named : entry.1.IsText name)
      (noKind : ∀ kind, ¬ AttributeKind.GivenBy entry.2 kind) :
      Refused entry (.unsupportedAttribute name (.notTag (.ofValue entry.2)))

theorem ofEntry_eq_ok_iff {entry : Value × Value} {declaration : AttributeDeclaration} :
    ofEntry entry = .ok declaration ↔ GivenBy entry declaration := by
  rw [ofEntry]
  cases key : entry.1.text? with
  | none =>
      refine ⟨nofun, fun given => ?_⟩
      exact absurd given.name (Value.text?_eq_none_iff.mp key declaration.name)
  | some name =>
      constructor
      · intro loaded
        obtain ⟨kind, read, same⟩ := Outcome.bind_eq_ok_iff.mp loaded
        obtain rfl := Except.ok.inj same
        exact ⟨Value.text?_eq_some_iff.mp key, AttributeKind.ofValue_eq_ok_iff.mp read⟩
      · intro given
        obtain rfl : name = declaration.name :=
          Option.some.inj (key.symm.trans (Value.text?_eq_some_iff.mpr given.name))
        exact Outcome.bind_eq_ok_iff.mpr
          ⟨declaration.kind, AttributeKind.ofValue_eq_ok_iff.mpr given.kind, rfl⟩

theorem ofEntry_eq_error_iff {entry : Value × Value} {error : RequestError} :
    ofEntry entry = .error error ↔ Refused entry error := by
  rw [ofEntry]
  cases key : entry.1.text? with
  | none =>
      have noText := Value.text?_eq_none_iff.mp key
      constructor
      · rintro ⟨⟩
        exact .nameless noText
      · intro refused
        cases refused with
        | nameless => rfl
        | kindless named => exact absurd named (noText _)
  | some name =>
      have isName := Value.text?_eq_some_iff.mp key
      change (_ >>= _) = _ ↔ _
      rw [Outcome.bind_pure_eq_error_iff, AttributeKind.ofValue_eq_error_iff]
      constructor
      · rintro ⟨noKind, rfl⟩
        exact .kindless isName noKind
      · intro refused
        cases refused with
        | nameless noText => exact absurd isName (noText name)
        | kindless named noKind =>
            rw [Value.text?_eq_some_iff.mpr named] at key
            obtain rfl := Option.some.inj key
            exact ⟨noKind, rfl⟩

end AttributeDeclaration

namespace Argument

/-- The input or output that a value declares. -/
inductive GivenBy : Value → Argument → Prop
  | pair {key value : Value} {name typeTag : String} (named : key.IsText name)
      (typed : value.IsText typeTag) : GivenBy (.mapping [(key, value)]) ⟨name, typeTag⟩

/-- What is reported of a value. -/
inductive Refused (role : ArgumentRole) : Value → RequestError → Prop
  | notPair {value : Value} (noPair : ∀ entry, value ≠ .mapping [entry]) :
      Refused role value (.malformedEntry (.argumentNotPair role (.ofValue value)))
  | notTexts {key value : Value}
      (noTexts : ∀ argument, ¬ GivenBy (.mapping [(key, value)]) argument) :
      Refused role (.mapping [(key, value)])
        (.malformedEntry (.argumentNotStrings role (.ofValue key) (.ofValue value)))

variable {role : ArgumentRole} {value : Value}

theorem ofValue_eq_ok_iff {argument : Argument} :
    ofValue role value = .ok argument ↔ GivenBy value argument := by
  constructor
  · fun_cases ofValue role value with
    | case1 entry name typeTag typed named =>
        rintro ⟨⟩
        exact .pair (Value.text?_eq_some_iff.mp named) (Value.text?_eq_some_iff.mp typed)
    | case2 entry noTexts => exact nofun
    | case3 other noPair => exact nofun
  · rintro ⟨named, typed⟩
    rw [ofValue, Value.text?_eq_some_iff.mpr named, Value.text?_eq_some_iff.mpr typed]

theorem ofValue_eq_error_iff {error : RequestError} :
    ofValue role value = .error error ↔ Refused role value error := by
  constructor
  · fun_cases ofValue role value with
    | case1 entry name typeTag typed named => exact nofun
    | case2 entry noTexts =>
        rintro ⟨⟩
        refine .notTexts fun argument given => ?_
        obtain ⟨named, typed⟩ := given
        exact noTexts _ _ (Value.text?_eq_some_iff.mpr named) (Value.text?_eq_some_iff.mpr typed)
    | case3 other noPair =>
        rintro ⟨⟩
        exact .notPair noPair
  · intro refused
    fun_cases ofValue role value with
    | case1 entry name typeTag typed named =>
        have given : GivenBy (.mapping [entry]) ⟨name, typeTag⟩ :=
          .pair (Value.text?_eq_some_iff.mp named) (Value.text?_eq_some_iff.mp typed)
        cases refused with
        | notPair noPair => exact absurd rfl (noPair entry)
        | notTexts noTexts => exact absurd given (noTexts _)
    | case2 entry noTexts =>
        cases refused with
        | notPair noPair => exact absurd rfl (noPair entry)
        | notTexts => rfl
    | case3 other noPair =>
        cases refused with
        | notPair => rfl
        | notTexts => exact absurd rfl (noPair _)

end Argument

/-! ## Specifications -/

namespace Specification

/-- A request holds what the entries of a specification give, in the same order. -/
structure Gives (specification : Specification) (request : Request) : Prop where
  name : request.signature.name = specification.name
  attributes : List.Forall₂ AttributeDeclaration.GivenBy (specification.attributes.getD [])
    request.signature.attributes
  inputs : List.Forall₂ Argument.GivenBy (specification.inputs.getD []) request.signature.inputs
  outputs : List.Forall₂ Argument.GivenBy (specification.outputs.getD []) request.signature.outputs
  shapeRules : List.Forall₂ ShapeRule.GivenBy (specification.shapeRules.getD []) request.shapeRules
  kernel : request.kernel = specification.kernel

/-- What each section may report, in order. -/
def stages (specification : Specification) : List (RequestError → Prop) :=
  [IsFirstFault (fun _ entry => AttributeDeclaration.Refused entry)
      (specification.attributes.getD []),
    IsFirstFault (fun _ value => Argument.Refused .input value) (specification.inputs.getD []),
    IsFirstFault (fun _ value => Argument.Refused .output value) (specification.outputs.getD []),
    IsFirstFault (fun _ entry => ShapeRule.Refused entry) (specification.shapeRules.getD [])]

/-- A text is a document that holds the fields of a specification. -/
def IsReadFrom (specification : Specification) (text : String) : Prop :=
  ∃ tree, Yaml.Tree.ofText text = .ok tree ∧ ofTree tree = .ok specification

variable {specification : Specification}

theorem request_eq_ok_iff {request : Request} :
    specification.request = .ok request ↔ specification.Gives request := by
  simp only [Specification.request, Outcome.bind_eq_ok_iff, Outcome.mapM_eq_ok_iff,
    AttributeDeclaration.ofEntry_eq_ok_iff, Argument.ofValue_eq_ok_iff,
    ShapeRule.ofEntry_eq_ok_iff]
  constructor
  · rintro ⟨attributes, attributesGiven, inputs, inputsGiven, outputs, outputsGiven, shapeRules,
      rulesGiven, same⟩
    obtain rfl := Except.ok.inj same
    exact ⟨rfl, attributesGiven, inputsGiven, outputsGiven, rulesGiven, rfl⟩
  · intro gives
    refine ⟨_, gives.attributes, _, gives.inputs, _, gives.outputs, _, gives.shapeRules, ?_⟩
    rw [← gives.name, ← gives.kernel]
    rfl

theorem request_eq_error_iff {error : RequestError} :
    specification.request = .error error ↔ IsFirstReported specification.stages error := by
  have arguments (role : ArgumentRole) (values : List Value) (error : RequestError) :
      values.mapM (Argument.ofValue role) = .error error ↔
        IsFirstFault (fun _ value => Argument.Refused role value) values error := by
    simp only [Outcome.mapM_eq_error_iff, Argument.ofValue_eq_error_iff]
  rw [Specification.request, stages]
  refine Outcome.bind_eq_error_iff (fun _ => ?_) (fun _ _ => ?_) error
  · simp only [Outcome.mapM_eq_error_iff, AttributeDeclaration.ofEntry_eq_error_iff]
  refine Outcome.bind_eq_error_iff (arguments .input _) (fun _ _ => ?_)
  refine Outcome.bind_eq_error_iff (arguments .output _) (fun _ _ => ?_)
  refine Outcome.bind_eq_error_iff (fun _ => ShapeRule.mapM_ofEntry_eq_error_iff) (fun _ _ _ => ?_)
  constructor
  · intro fails
    cases fails
  · intro fault
    exact absurd fault IsFirstFault.not_nil

theorem ofYaml_of_isReadFrom {text : String} (read : specification.IsReadFrom text) :
    Request.ofYaml text = specification.request.mapError .refused := by
  obtain ⟨tree, parsed, fields⟩ := read
  rw [Request.ofYaml, parsed]
  simp only [fields]

/-- The sections of a specification give what their entries give, in order, or else the first entry
is reported that gives nothing; for a document this decides what is loaded. -/
theorem sections_load_exactly (specification : Specification) :
    (∀ request, specification.request = .ok request ↔ specification.Gives request) ∧
      (∀ error, specification.request = .error error ↔
        IsFirstReported specification.stages error) ∧
      ∀ text, specification.IsReadFrom text →
        Request.ofYaml text = specification.request.mapError .refused :=
  ⟨fun _ => request_eq_ok_iff, fun _ => request_eq_error_iff, fun _ => ofYaml_of_isReadFrom⟩

def taggedDocument : String :=
  "name: Op\nattributes: \x7b!k T: float\x7d\noutputs: [y: !t T, [z]]\n"

/-- The tags stand before texts where a text is asked for; the second output is no pair. -/
def taggedSpecification : Specification where
  name := "Op"
  attributes := some [(.tagged "k" (.text "T"), .text "float")]
  outputs := some [.mapping [(.text "y", .tagged "t" (.text "T"))], .sequence [.text "z"]]

def plainScalar (offset line column : Nat) (tag : Option Yaml.Tag) (text : String) : Yaml.Tree :=
  .scalar ⟨offset, line, column⟩ tag .plain text

def taggedTree : Yaml.Tree := .mapping ⟨0, 0, 0⟩ none
  [(some "name", plainScalar 0 0 0 none "name", plainScalar 6 0 6 none "Op"),
    (some "attributes", plainScalar 9 1 0 none "attributes", .mapping ⟨21, 1, 12⟩ none
      [(some "T", plainScalar 22 1 13 (some (.custom (some "k"))) "T",
        plainScalar 28 1 19 none "float")]),
    (some "outputs", plainScalar 35 2 0 none "outputs", .sequence ⟨44, 2, 9⟩ none
      [.mapping ⟨45, 2, 10⟩ none [(some "y", plainScalar 45 2 10 none "y",
          plainScalar 48 2 13 (some (.custom (some "t"))) "T")],
        .sequence ⟨54, 2, 19⟩ none [plainScalar 55 2 20 none "z"]])]

theorem taggedDocument_loads_exactly :
    taggedSpecification.IsReadFrom taggedDocument ∧
      IsFirstReported taggedSpecification.stages
        (.malformedEntry (.argumentNotPair .output .list)) ∧
      Request.ofYaml taggedDocument =
        .error (.refused (.malformedEntry (.argumentNotPair .output .list))) := by
  have parsed : Yaml.Tree.ofText taggedDocument = .ok taggedTree :=
    Outcome.eq_ok_of_toOption (by decide +kernel)
  have isRead : taggedSpecification.IsReadFrom taggedDocument := ⟨taggedTree, parsed, rfl⟩
  obtain ⟨-, reports, loads⟩ := sections_load_exactly taggedSpecification
  have refused : taggedSpecification.request =
      .error (.malformedEntry (.argumentNotPair .output .list)) := rfl
  refine ⟨isRead, (reports _).mp refused, ?_⟩
  rw [loads taggedDocument isRead, refused]
  rfl

end Specification

end OperatorSource
