import OperatorSource.Catalog.Builtin
import OperatorSource.Request.Validation
import Mathlib.Data.List.Basic

/-!
# Which requests are accepted

Checking goes through a request in stages and stops at the first problem.  This file states what an
acceptable request is without any order of stages, and proves that checking accepts exactly those
requests.  An accepted request comes out as it went in: only its attribute tags change their form,
from text to members of the vocabulary that are spelled the same.
-/

namespace OperatorSource

namespace TypeTag

/-- The spellings of the vocabulary, in order. -/
def vocabulary : List String :=
  ["float", "double", "int8", "int16", "int32", "int64", "uint8", "uint16", "bool", "qint8",
    "qint16", "qint32", "quint8", "quint16", "quint32", "bfloat16", "half"]

theorem text_mem_vocabulary (tag : TypeTag) : tag.text ∈ vocabulary := by
  cases tag <;> decide

theorem ofText?_text (tag : TypeTag) : ofText? tag.text = some tag := by
  cases tag <;> decide

theorem ofText?_eq_some_iff {text : String} {tag : TypeTag} :
    ofText? text = some tag ↔ text = tag.text := by
  constructor
  · intro found
    have spelled := List.find?_some found
    exact (eq_of_beq spelled).symm
  · rintro rfl
    exact ofText?_text tag

theorem text_inj {first second : TypeTag} : first.text = second.text ↔ first = second := by
  constructor
  · intro sameText
    have found := ofText?_text first
    rw [sameText, ofText?_text] at found
    exact (Option.some.inj found).symm
  · rintro rfl
    rfl

theorem exists_text_of_mem_vocabulary {text : String} (member : text ∈ vocabulary) :
    ∃ tag : TypeTag, text = tag.text := by
  have spellings : vocabulary = all.map TypeTag.text := rfl
  rw [spellings, List.mem_map] at member
  obtain ⟨tag, _, rfl⟩ := member
  exact ⟨tag, rfl⟩

end TypeTag

/-- The declaration that an accepted attribute came from. -/
def Attribute.declaration (declared : Attribute) : AttributeDeclaration :=
  ⟨declared.name, .scalar declared.tag.text⟩

namespace AttributeDeclaration

/-- The kind is a plain tag of the vocabulary, spelled exactly so. -/
def InVocabulary (declaration : AttributeDeclaration) : Prop :=
  ∃ tag ∈ TypeTag.vocabulary, declaration.kind = .scalar tag

theorem inVocabulary_declaration (declared : Attribute) : declared.declaration.InVocabulary :=
  ⟨declared.tag.text, declared.tag.text_mem_vocabulary, rfl⟩

theorem exists_declaration_of_inVocabulary {declaration : AttributeDeclaration}
    (known : declaration.InVocabulary) :
    ∃ declared : Attribute, declared.declaration = declaration := by
  obtain ⟨text, member, kind⟩ := known
  obtain ⟨tag, rfl⟩ := TypeTag.exists_text_of_mem_vocabulary member
  cases declaration with
  | mk name _ =>
      subst kind
      exact ⟨⟨name, tag⟩, rfl⟩

theorem exists_attributes {declarations : List AttributeDeclaration}
    (known : ∀ declaration ∈ declarations, declaration.InVocabulary) :
    ∃ attributes : List Attribute, attributes.map Attribute.declaration = declarations := by
  induction declarations with
  | nil => exact ⟨[], rfl⟩
  | cons declaration rest ih =>
      rw [List.forall_mem_cons] at known
      obtain ⟨declared, source⟩ := exists_declaration_of_inVocabulary known.1
      obtain ⟨others, laterSources⟩ := ih known.2
      exact ⟨declared :: others, by rw [List.map_cons, source, laterSources]⟩

theorem check_eq_ok_iff {seen : List String} {declaration : AttributeDeclaration}
    {declared : Attribute} :
    declaration.check seen = .ok declared ↔
      declaration.name ≠ "" ∧ declaration.name ∉ seen ∧ declared.declaration = declaration := by
  obtain ⟨name, kind⟩ := declaration
  obtain ⟨declaredName, tag⟩ := declared
  unfold check Attribute.declaration
  by_cases empty : name = ""
  · simp [empty]
  by_cases repeated : name ∈ seen
  · simp [empty, repeated]
  cases kind with
  | composite kind => simp [empty, repeated]
  | scalar text =>
      cases found : TypeTag.ofText? text with
      | none =>
          have unknown : text ≠ tag.text := by
            rintro rfl
            simp [TypeTag.ofText?_text] at found
          simp [empty, repeated, found, unknown.symm]
      | some known =>
          rw [TypeTag.ofText?_eq_some_iff] at found
          subst found
          simp [empty, repeated, TypeTag.ofText?_text, TypeTag.text_inj, eq_comm]

theorem checkAll_cons_eq_ok_iff {seen : List String} {declaration : AttributeDeclaration}
    {rest : List AttributeDeclaration} {attributes : List Attribute} :
    checkAll seen (declaration :: rest) = .ok attributes ↔
      ∃ first others, declaration.check seen = .ok first ∧
        checkAll (declaration.name :: seen) rest = .ok others ∧ first :: others = attributes := by
  rw [checkAll]
  cases checked : declaration.check seen with
  | error error => simp [bind, Except.bind]
  | ok first =>
      cases later : checkAll (declaration.name :: seen) rest <;>
        simp [bind, Except.bind, pure, Except.pure]

/-- The names that were seen before only restrict the names; what comes out does not depend on
them. -/
theorem checkAll_eq_ok_iff {seen : List String} {declarations : List AttributeDeclaration}
    {attributes : List Attribute} :
    checkAll seen declarations = .ok attributes ↔
      (∀ declaration ∈ declarations, declaration.name ≠ "" ∧ declaration.name ∉ seen) ∧
        (declarations.map AttributeDeclaration.name).Nodup ∧
          attributes.map Attribute.declaration = declarations := by
  induction declarations generalizing seen attributes with
  | nil => cases attributes <;> simp [checkAll]
  | cons declaration rest ih =>
      rw [checkAll_cons_eq_ok_iff, List.forall_mem_cons, List.map_cons, List.nodup_cons]
      constructor
      · rintro ⟨first, others, checked, later, rfl⟩
        obtain ⟨named, fresh, source⟩ := check_eq_ok_iff.mp checked
        obtain ⟨names, distinct, sources⟩ := ih.mp later
        refine ⟨⟨⟨named, fresh⟩, fun other member => ?_⟩, ⟨?_, distinct⟩, ?_⟩
        · exact ⟨(names other member).1, fun old => (names other member).2 (by simp [old])⟩
        · intro repeated
          obtain ⟨other, member, sameName⟩ := List.mem_map.mp repeated
          exact (names other member).2 (by simp [sameName])
        · simp [source, sources]
      · rintro ⟨⟨⟨named, fresh⟩, names⟩, ⟨unrepeated, distinct⟩, sources⟩
        obtain ⟨first, others, rfl, source, laterSources⟩ := List.map_eq_cons_iff.mp sources
        refine ⟨first, others, check_eq_ok_iff.mpr ⟨named, fresh, source⟩,
          ih.mpr ⟨fun other member => ⟨(names other member).1, ?_⟩, distinct, laterSources⟩, rfl⟩
        intro old
        rcases List.mem_cons.mp old with sameName | old
        · exact unrepeated (List.mem_map.mpr ⟨other, member, sameName⟩)
        · exact (names other member).2 old

end AttributeDeclaration

namespace Argument

/-- Both texts of an argument are there. -/
def IsComplete (argument : Argument) : Prop :=
  argument.name ≠ "" ∧ argument.typeTag ≠ ""

theorem check_eq_ok_iff {role : ArgumentRole} {index : Nat} {argument : Argument} :
    argument.check role index = .ok () ↔ argument.IsComplete := by
  unfold check IsComplete
  by_cases noName : argument.name = ""
  · simp [noName]
  by_cases noType : argument.typeTag = ""
  · simp [noName, noType]
  · simp [noName, noType]

theorem checkFrom_eq_ok_iff {role : ArgumentRole} {index : Nat} {arguments : List Argument} :
    checkFrom role index arguments = .ok () ↔ ∀ argument ∈ arguments, argument.IsComplete := by
  induction arguments generalizing index with
  | nil => simp [checkFrom]
  | cons argument rest ih =>
      have split : checkFrom role index (argument :: rest) = .ok () ↔
          argument.check role index = .ok () ∧ checkFrom role (index + 1) rest = .ok () := by
        cases checked : argument.check role index <;>
          simp [checkFrom, checked, bind, Except.bind]
      rw [split, check_eq_ok_iff, ih, List.forall_mem_cons]

end Argument

namespace ShapeRule

/-- The rule only refers to what a signature declares, and fixed dimensions are positive. -/
structure Fits (signature : Signature) (rule : ShapeRule) : Prop where
  output_declared : rule.output < signature.outputs.length
  dimensions_nonzero : ∀ dimensions, rule.shape = .fixed dimensions →
    ∀ dimension ∈ dimensions, dimension ≠ 0
  input_declared : ∀ input, rule.shape = .likeInput input → input < signature.inputs.length

theorem fault?_eq_none_iff {signature : Signature} {rule : ShapeRule} :
    rule.fault? signature = none ↔ rule.Fits signature := by
  obtain ⟨output, shape⟩ := rule
  rw [fault?]
  by_cases undeclared : signature.outputs.length ≤ output
  · rw [if_pos undeclared]
    exact ⟨nofun, fun fits => absurd undeclared (Nat.not_le.mpr fits.output_declared)⟩
  rw [if_neg undeclared]
  have declared : output < signature.outputs.length := Nat.not_le.mp undeclared
  cases shape with
  | fixed dimensions =>
      change (dimensions.findIdx? (· == 0)).map RuleFault.zeroDimension = none ↔ _
      rw [Option.map_eq_none_iff, List.findIdx?_eq_none_iff]
      constructor
      · intro nonzero
        refine ⟨declared, ?_, fun input sameShape => nomatch sameShape⟩
        rintro _ ⟨rfl⟩ dimension member
        simpa using nonzero dimension member
      · intro fits dimension member
        simpa using fits.dimensions_nonzero dimensions rfl dimension member
  | likeInput input =>
      change (if signature.inputs.length ≤ input then _ else none) = none ↔ _
      rw [ite_eq_right_iff]
      constructor
      · intro noFault
        refine ⟨declared, (fun _ sameShape => nomatch sameShape), ?_⟩
        rintro _ ⟨rfl⟩
        exact Nat.not_le.mp fun missing => nomatch noFault missing
      · intro fits missing
        exact absurd missing (Nat.not_le.mpr (fits.input_declared input rfl))

section Checking

variable {signature : Signature} {policy : ShapePolicy} {seen : List Nat} {rule : ShapeRule}
  {rest : List ShapeRule}

theorem checkFrom_cons_of_fault {fault : RuleFault} (faulty : rule.fault? signature = some fault) :
    checkFrom signature policy seen (rule :: rest) =
      .fail (.inconsistentRule rule.output fault) := by
  rw [checkFrom.eq_def]
  simp only [faulty]

theorem checkFrom_cons_of_fresh (fits : rule.Fits signature) (fresh : rule.output ∉ seen) :
    checkFrom signature policy seen (rule :: rest) =
      checkFrom signature policy (rule.output :: seen) rest := by
  rw [checkFrom.eq_def]
  simp only [fault?_eq_none_iff.mpr fits, fresh, if_false]

theorem checkFrom_permissive_cons_of_repeated (fits : rule.Fits signature)
    (repeated : rule.output ∈ seen) :
    checkFrom signature .permissive seen (rule :: rest) = (do
      .report (.duplicateRule signature.name rule.output)
      checkFrom signature .permissive seen rest) := by
  rw [checkFrom.eq_def]
  simp only [fault?_eq_none_iff.mpr fits, repeated, if_true]

theorem checkFrom_strict_cons_of_repeated (fits : rule.Fits signature)
    (repeated : rule.output ∈ seen) :
    checkFrom signature .strict seen (rule :: rest) =
      .fail (.inconsistentRule rule.output .repeatedOutput) := by
  rw [checkFrom.eq_def]
  simp only [fault?_eq_none_iff.mpr fits, repeated, if_true]

end Checking

/-- Under the strict policy the outputs seen before restrict the outputs of the rules to come;
under the permissive one they do not. -/
theorem checkFrom_eq_ok_iff {signature : Signature} {policy : ShapePolicy} {seen : List Nat}
    {rules : List ShapeRule} :
    (checkFrom signature policy seen rules).result = .ok () ↔
      (∀ rule ∈ rules, rule.Fits signature) ∧
        (policy = .strict →
          (rules.map ShapeRule.output).Nodup ∧ ∀ rule ∈ rules, rule.output ∉ seen) := by
  induction rules generalizing seen with
  | nil => simp [checkFrom]
  | cons rule rest ih =>
      rw [List.forall_mem_cons, ← fault?_eq_none_iff, checkFrom.eq_def]
      cases faulty : rule.fault? signature with
      | some fault => simp [faulty]
      | none =>
          by_cases repeated : rule.output ∈ seen
          · cases policy with
            | strict => simp [faulty, repeated]
            | permissive => simp [faulty, repeated, Traced.result_bind_eq_ok_iff, ih]
          · simp only [faulty, repeated, if_false, ih, List.map_cons, List.nodup_cons,
              List.mem_map, List.mem_cons]
            grind

end ShapeRule

theorem KernelBinding.check?_eq_ok_iff {kernel : Option KernelBinding} :
    KernelBinding.check? kernel = .ok () ↔ ∀ bound ∈ kernel, bound.className ≠ "" := by
  cases kernel with
  | none => simp [check?]
  | some bound => by_cases empty : bound.className = "" <;> simp [check?, empty]

namespace Request

/-- What an acceptable request is, whatever the order in which it is checked. -/
structure WellFormed (request : Request) (policy : ShapePolicy) : Prop where
  operator_named : request.signature.name ≠ ""
  attributes_named : ∀ declaration ∈ request.signature.attributes, declaration.name ≠ ""
  attributes_distinct : (request.signature.attributes.map AttributeDeclaration.name).Nodup
  attributes_known : ∀ declaration ∈ request.signature.attributes, declaration.InVocabulary
  inputs_complete : ∀ argument ∈ request.signature.inputs, argument.IsComplete
  outputs_complete : ∀ argument ∈ request.signature.outputs, argument.IsComplete
  rules_fit : ∀ rule ∈ request.shapeRules, rule.Fits request.signature
  rules_distinct : policy = .strict → (request.shapeRules.map ShapeRule.output).Nodup
  kernel_named : ∀ kernel ∈ request.kernel, kernel.className ≠ ""

/-- Everything of a request is kept; the attributes are the declared ones, with their tags read. -/
structure Carries (request : Request) (validated : ValidatedRequest) : Prop where
  name_eq : validated.name = request.signature.name
  attributes_eq : validated.attributes.map Attribute.declaration = request.signature.attributes
  inputs_eq : validated.inputs = request.signature.inputs
  outputs_eq : validated.outputs = request.signature.outputs
  shapeRules_eq : validated.shapeRules = request.shapeRules
  kernel_eq : validated.kernel = request.kernel

/-- Checking succeeds when every stage does. -/
theorem validate_eq_ok_iff_stages {request : Request} {policy : ShapePolicy}
    {validated : ValidatedRequest} :
    (request.validate policy).result = .ok validated ↔
      request.signature.name ≠ "" ∧
        (∃ attributes, AttributeDeclaration.checkAll [] request.signature.attributes =
            .ok attributes ∧
          validated = ⟨request.signature.name, attributes, request.signature.inputs,
            request.signature.outputs, request.shapeRules, request.kernel⟩) ∧
        Argument.checkAll .input request.signature.inputs = .ok () ∧
        Argument.checkAll .output request.signature.outputs = .ok () ∧
        (ShapeRule.checkAll request.signature policy request.shapeRules).result = .ok () ∧
        KernelBinding.check? request.kernel = .ok () := by
  unfold validate
  by_cases unnamed : request.signature.name = ""
  · simp [unnamed]
  · simp only [unnamed, if_false, Traced.result_bind_eq_ok_iff, Traced.result_ofExcept,
      Traced.result_report, Traced.result_pure]
    grind

/-- Accepted requests are the well-formed ones, and each carries over unchanged. -/
theorem validate_eq_ok_iff_carries {request : Request} {policy : ShapePolicy}
    {validated : ValidatedRequest} :
    (request.validate policy).result = .ok validated ↔
      request.WellFormed policy ∧ request.Carries validated := by
  rw [validate_eq_ok_iff_stages, Argument.checkAll, Argument.checkAll, ShapeRule.checkAll,
    Argument.checkFrom_eq_ok_iff, Argument.checkFrom_eq_ok_iff, ShapeRule.checkFrom_eq_ok_iff,
    KernelBinding.check?_eq_ok_iff]
  constructor
  · rintro ⟨named, ⟨attributes, checked, rfl⟩, inputs, outputs, ⟨fit, distinct⟩, kernel⟩
    obtain ⟨names, distinctNames, sources⟩ := AttributeDeclaration.checkAll_eq_ok_iff.mp checked
    refine ⟨⟨named, fun declaration member => (names declaration member).1, distinctNames,
      ?_, inputs, outputs, fit, fun strict => (distinct strict).1, kernel⟩,
      ⟨rfl, sources, rfl, rfl, rfl, rfl⟩⟩
    intro declaration member
    rw [← sources, List.mem_map] at member
    obtain ⟨declared, _, rfl⟩ := member
    exact AttributeDeclaration.inVocabulary_declaration declared
  · rintro ⟨wellFormed, carries⟩
    obtain ⟨name, attributes, inputs, outputs, shapeRules, kernel⟩ := validated
    obtain ⟨rfl, sources, rfl, rfl, rfl, rfl⟩ := carries
    refine ⟨wellFormed.operator_named, ⟨attributes, ?_, rfl⟩, wellFormed.inputs_complete,
      wellFormed.outputs_complete, ⟨wellFormed.rules_fit, fun strict =>
        ⟨wellFormed.rules_distinct strict, by simp⟩⟩, wellFormed.kernel_named⟩
    refine AttributeDeclaration.checkAll_eq_ok_iff.mpr ⟨fun declaration member => ?_,
      wellFormed.attributes_distinct, sources⟩
    exact ⟨wellFormed.attributes_named declaration member, by simp⟩

theorem WellFormed.exists_carries {request : Request} {policy : ShapePolicy}
    (wellFormed : request.WellFormed policy) :
    ∃ validated, request.Carries validated := by
  obtain ⟨attributes, sources⟩ :=
    AttributeDeclaration.exists_attributes wellFormed.attributes_known
  exact ⟨⟨request.signature.name, attributes, request.signature.inputs,
    request.signature.outputs, request.shapeRules, request.kernel⟩,
    ⟨rfl, sources, rfl, rfl, rfl, rfl⟩⟩

/-- A request is accepted exactly when it is well formed, and what comes out of an accepted request
is exactly what the request carries. -/
theorem validate_accepts_exactly_wellFormed (request : Request) (policy : ShapePolicy) :
    ((∃ validated, (request.validate policy).result = .ok validated) ↔
        request.WellFormed policy) ∧
      ∀ validated, (request.validate policy).result = .ok validated ↔
        request.WellFormed policy ∧ request.Carries validated := by
  refine ⟨⟨?_, ?_⟩, fun validated => validate_eq_ok_iff_carries⟩
  · rintro ⟨validated, accepted⟩
    exact (validate_eq_ok_iff_carries.mp accepted).1
  · intro wellFormed
    obtain ⟨validated, carries⟩ := wellFormed.exists_carries
    exact ⟨validated, validate_eq_ok_iff_carries.mpr ⟨wellFormed, carries⟩⟩

end Request

/-- The operators that come with the generator are accepted, even where repeated rules are
refused. -/
theorem Builtin.exists_validate_eq_ok (builtin : Builtin) (policy : ShapePolicy) :
    ∃ validated, (builtin.request.validate policy).result = .ok validated := by
  cases builtin <;> cases policy <;> exact ⟨_, rfl⟩

end OperatorSource
