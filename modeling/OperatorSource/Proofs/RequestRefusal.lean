import OperatorSource.Proofs.FirstFaults
import OperatorSource.Proofs.RequestAcceptance

/-!
# Why a request is refused

A refused request may have many faults, of which one is reported.  This file says which: the stages
of checking come one after the other, and within a list the first entry that is at fault decides.
What counts as a fault of an entry is stated without the state that checking keeps: a name or an
output is taken if an entry before it has it.
-/

namespace OperatorSource

/-- Why a kind outside the vocabulary is refused. -/
def AttributeKind.fault : AttributeKind → AttributeFault
  | .scalar tag => .unknownTag tag
  | .composite kind => .composite kind

namespace AttributeDeclaration

/-- What is wrong with an attribute behind some others. -/
inductive FaultBehind (earlier : List AttributeDeclaration) (declaration : AttributeDeclaration) :
    RequestError → Prop
  | unnamed (empty : declaration.name = "") :
      FaultBehind earlier declaration (.malformedEntry .attributeNameEmpty)
  | repeated (named : declaration.name ≠ "") (again : declaration.name ∈ earlier.map name) :
      FaultBehind earlier declaration (.malformedEntry (.attributeRepeated declaration.name))
  | unsupported (named : declaration.name ≠ "") (fresh : declaration.name ∉ earlier.map name)
      (unknown : ¬ declaration.InVocabulary) :
      FaultBehind earlier declaration
        (.unsupportedAttribute declaration.name declaration.kind.fault)

variable {seen : List String} {earlier : List AttributeDeclaration}
  {declaration : AttributeDeclaration}

theorem check_of_fault (tracked : Tracks AttributeDeclaration.name seen earlier)
    {error : RequestError} (fault : declaration.FaultBehind earlier error) :
    declaration.check seen = .error error := by
  cases fault with
  | unnamed empty => exact if_pos empty
  | repeated named again => rw [check, if_neg named, if_pos ((tracked _).mpr again)]
  | unsupported named fresh unknown =>
      rw [check, if_neg named, if_neg ((tracked _).not.mpr fresh)]
      cases kind : declaration.kind with
      | composite composite => rfl
      | scalar text =>
          have missing : TypeTag.ofText? text = none := by
            rw [Option.eq_none_iff_forall_ne_some]
            intro tag found
            obtain rfl := TypeTag.ofText?_eq_some_iff.mp found
            exact unknown ⟨tag.text, tag.text_mem_vocabulary, kind⟩
          simp only [missing]
          rfl

theorem check_of_sound (tracked : Tracks AttributeDeclaration.name seen earlier)
    (sound : ∀ error, ¬ declaration.FaultBehind earlier error) :
    ∃ declared, declaration.check seen = .ok declared := by
  have named : declaration.name ≠ "" := fun empty => sound _ (.unnamed empty)
  have fresh : declaration.name ∉ earlier.map name := fun again => sound _ (.repeated named again)
  have known : declaration.InVocabulary := by
    by_contra unknown
    exact sound _ (.unsupported named fresh unknown)
  obtain ⟨declared, source⟩ := exists_declaration_of_inVocabulary known
  exact ⟨declared, check_eq_ok_iff.mpr ⟨named, (tracked _).not.mpr fresh, source⟩⟩

theorem stopsAtFaults_checkAll :
    StopsAtFaults checkAll (Tracks AttributeDeclaration.name) FaultBehind where
  ends _ := ⟨[], rfl⟩
  stops tracked fault := by
    rw [checkAll, check_of_fault tracked fault]
    rfl
  continues {seen earlier declaration rest} tracked sound := by
    obtain ⟨declared, checked⟩ := check_of_sound tracked sound
    refine ⟨declaration.name :: seen, tracked.concat declaration, fun error => ?_⟩
    rw [checkAll, Outcome.bind_ok_eq_error_iff checked, Outcome.bind_pure_eq_error_iff]

theorem fresh_of_nodup {later : List AttributeDeclaration}
    (distinct : ((earlier ++ declaration :: later).map name).Nodup) :
    declaration.name ∉ earlier.map name := by
  rw [List.map_append, List.map_cons, List.nodup_append] at distinct
  intro again
  exact distinct.2.2 _ again _ List.mem_cons_self rfl

theorem isFirstFault_of_unknown {before after : List AttributeDeclaration}
    (named : ∀ declared ∈ before ++ declaration :: after, declared.name ≠ "")
    (distinct : ((before ++ declaration :: after).map name).Nodup)
    (known : ∀ earlier ∈ before, earlier.InVocabulary) (unknown : ¬ declaration.InVocabulary) :
    IsFirstFault FaultBehind (before ++ declaration :: after)
      (.unsupportedAttribute declaration.name declaration.kind.fault) := by
  have declarationNamed : declaration.name ≠ "" := named declaration (by simp)
  refine ⟨before, declaration, after, rfl,
    .unsupported declarationNamed (fresh_of_nodup distinct) unknown, ?_⟩
  rintro earlier other later rfl error fault
  have member : other ∈ earlier ++ other :: later := by simp
  cases fault with
  | unnamed empty => exact named other (List.mem_append_left _ member) empty
  | repeated _ again =>
      rw [List.append_assoc, List.cons_append] at distinct
      exact fresh_of_nodup distinct again
  | unsupported _ _ otherUnknown => exact otherUnknown (known other member)

end AttributeDeclaration

namespace Argument

/-- What is wrong with an input or an output behind some others. -/
inductive FaultBehind (role : ArgumentRole) (earlier : List Argument) (argument : Argument) :
    RequestError → Prop
  | unnamed (empty : argument.name = "") :
      FaultBehind role earlier argument (.malformedEntry (.argumentNameEmpty role earlier.length))
  | untyped (named : argument.name ≠ "") (empty : argument.typeTag = "") :
      FaultBehind role earlier argument (.malformedEntry (.argumentTypeEmpty role argument.name))

variable {role : ArgumentRole} {earlier : List Argument} {argument : Argument}

theorem check_of_fault {error : RequestError} (fault : argument.FaultBehind role earlier error) :
    argument.check role earlier.length = .error error := by
  cases fault with
  | unnamed empty => exact if_pos empty
  | untyped named empty => rw [check, if_neg named, if_pos empty]

theorem check_of_sound (sound : ∀ error, ¬ argument.FaultBehind role earlier error) :
    argument.check role earlier.length = .ok () := by
  have named : argument.name ≠ "" := fun empty => sound _ (.unnamed empty)
  have typed : argument.typeTag ≠ "" := fun empty => sound _ (.untyped named empty)
  exact check_eq_ok_iff.mpr ⟨named, typed⟩

theorem stopsAtFaults_checkFrom (role : ArgumentRole) :
    StopsAtFaults (checkFrom role) (fun index earlier => index = earlier.length)
      (FaultBehind role) where
  ends _ := ⟨(), rfl⟩
  stops tracked fault := by
    rw [checkFrom, tracked, check_of_fault fault]
    rfl
  continues {index earlier argument rest} tracked sound := by
    refine ⟨index + 1, by simp [tracked], fun error => ?_⟩
    rw [checkFrom, Outcome.bind_ok_eq_error_iff (tracked ▸ check_of_sound sound)]

end Argument

namespace ShapeRule

/-- What is wrong with a shape rule behind some others.  What the rule refers to comes before the
rules that it repeats. -/
inductive FaultBehind (signature : Signature) (policy : ShapePolicy) (earlier : List ShapeRule)
    (rule : ShapeRule) : RequestError → Prop
  | undeclaredOutput (missing : signature.outputs.length ≤ rule.output) :
      FaultBehind signature policy earlier rule (.inconsistentRule rule.output
        (.undeclaredOutput signature.name signature.outputs.length))
  | zeroDimension {before after : List Nat} (declared : rule.output < signature.outputs.length)
      (written : rule.shape = .fixed (before ++ 0 :: after)) (first : 0 ∉ before) :
      FaultBehind signature policy earlier rule
        (.inconsistentRule rule.output (.zeroDimension before.length))
  | undeclaredInput {input : Nat} (declared : rule.output < signature.outputs.length)
      (written : rule.shape = .likeInput input) (missing : signature.inputs.length ≤ input) :
      FaultBehind signature policy earlier rule (.inconsistentRule rule.output
        (.undeclaredInput input signature.name signature.inputs.length))
  | repeatedOutput (fits : rule.Fits signature) (strict : policy = .strict)
      (again : rule.output ∈ earlier.map output) :
      FaultBehind signature policy earlier rule (.inconsistentRule rule.output .repeatedOutput)

variable {signature : Signature} {policy : ShapePolicy} {seen : List Nat}
  {earlier : List ShapeRule} {rule : ShapeRule} {rest : List ShapeRule}

theorem findIdx?_zero {before : List Nat} (first : 0 ∉ before) (after : List Nat) :
    (before ++ 0 :: after).findIdx? (· == 0) = some before.length := by
  have noZero : before.findIdx? (· == 0) = none := by
    rw [List.findIdx?_eq_none_iff]
    intro dimension member
    exact beq_false_of_ne fun zero => first (zero ▸ member)
  simp [List.findIdx?_append, noZero, List.findIdx?_cons]

theorem checkFrom_of_fault (tracked : Tracks ShapeRule.output seen earlier) {error : RequestError}
    (fault : rule.FaultBehind signature policy earlier error) :
    checkFrom signature policy seen (rule :: rest) = .fail error := by
  cases fault with
  | undeclaredOutput missing => exact checkFrom_cons_of_fault (if_pos missing)
  | zeroDimension declared written first =>
      apply checkFrom_cons_of_fault
      rw [fault?, if_neg (Nat.not_le.mpr declared), written]
      exact congrArg (Option.map RuleFault.zeroDimension) (findIdx?_zero first _)
  | undeclaredInput declared written missing =>
      apply checkFrom_cons_of_fault
      rw [fault?, if_neg (Nat.not_le.mpr declared), written]
      exact if_pos missing
  | repeatedOutput fits strict again =>
      subst strict
      exact checkFrom_strict_cons_of_repeated fits ((tracked _).mpr again)

theorem fits_of_sound (sound : ∀ error, ¬ rule.FaultBehind signature policy earlier error) :
    rule.Fits signature := by
  have declared : rule.output < signature.outputs.length :=
    Nat.not_le.mp fun missing => sound _ (.undeclaredOutput missing)
  constructor
  · exact declared
  · intro dimensions written dimension member zero
    subst zero
    obtain ⟨before, after, rfl, first⟩ := List.eq_append_cons_of_mem member
    exact sound _ (.zeroDimension declared written first)
  · intro input written
    exact Nat.not_le.mp fun missing => sound _ (.undeclaredInput declared written missing)

theorem checkFrom_of_sound (tracked : Tracks ShapeRule.output seen earlier)
    (sound : ∀ error, ¬ rule.FaultBehind signature policy earlier error) :
    ∃ next, Tracks ShapeRule.output next (earlier ++ [rule]) ∧
      (checkFrom signature policy seen (rule :: rest)).result =
        (checkFrom signature policy next rest).result := by
  have fits := fits_of_sound sound
  by_cases repeated : rule.output ∈ seen
  · -- A permissive check only warns here, and the outputs that it has seen stay the same.
    refine ⟨seen, tracked.concat_of_mem repeated, ?_⟩
    cases policy with
    | strict => exact absurd (.repeatedOutput fits rfl ((tracked _).mp repeated)) (sound _)
    | permissive =>
        rw [checkFrom_permissive_cons_of_repeated fits repeated, Traced.result_bind]
        rfl
  · refine ⟨rule.output :: seen, tracked.concat rule, ?_⟩
    rw [checkFrom_cons_of_fresh fits repeated]

theorem stopsAtFaults_checkFrom (signature : Signature) (policy : ShapePolicy) :
    StopsAtFaults (fun seen rules => (checkFrom signature policy seen rules).result)
      (Tracks ShapeRule.output) (FaultBehind signature policy) where
  ends _ := ⟨(), rfl⟩
  stops tracked fault := by rw [checkFrom_of_fault tracked fault, Traced.result_fail]
  continues {seen earlier rule rest} tracked sound := by
    obtain ⟨next, nextTracked, same⟩ := checkFrom_of_sound tracked sound
    exact ⟨next, nextTracked, fun error => by rw [same]⟩

end ShapeRule

namespace Request

/-- What each stage of checking a request may report, in order. -/
def stages (request : Request) (policy : ShapePolicy) : List (RequestError → Prop) :=
  [fun error => request.signature.name = "" ∧ error = .malformedEntry .operatorNameEmpty,
    IsFirstFault AttributeDeclaration.FaultBehind request.signature.attributes,
    IsFirstFault (Argument.FaultBehind .input) request.signature.inputs,
    IsFirstFault (Argument.FaultBehind .output) request.signature.outputs,
    IsFirstFault (ShapeRule.FaultBehind request.signature policy) request.shapeRules,
    fun error => (∃ kernel ∈ request.kernel, kernel.className = "") ∧
      error = .malformedEntry .kernelClassEmpty]

theorem bind_eq_error_iff {α β : Type} {first : Traced RequestError α}
    {next : α → Traced RequestError β} {stage : RequestError → Prop}
    {rest : List (RequestError → Prop)}
    (firstReports : ∀ error, first.result = .error error ↔ stage error)
    (restReports : ∀ value error, (next value).result = .error error ↔ IsFirstReported rest error)
    (error : RequestError) :
    (first >>= next).result = .error error ↔ IsFirstReported (stage :: rest) error := by
  rw [Traced.result_bind]
  exact Outcome.bind_eq_error_iff firstReports (fun value _ => restReports value) error

theorem check?_eq_error_iff (kernel : Option KernelBinding) :
    ∀ error, KernelBinding.check? kernel = .error error ↔
      (∃ bound ∈ kernel, bound.className = "") ∧ error = .malformedEntry .kernelClassEmpty := by
  apply Outcome.eq_error_iff_of_reports
  · rintro _ ⟨⟨bound, given, empty⟩, rfl⟩
    obtain rfl := Option.mem_def.mp given
    exact if_pos empty
  · intro sound
    refine ⟨(), KernelBinding.check?_eq_ok_iff.mpr fun bound given empty => ?_⟩
    exact sound _ ⟨⟨bound, given, empty⟩, rfl⟩

theorem result_validate_eq_error_iff (request : Request) (policy : ShapePolicy)
    (error : RequestError) :
    (request.validate policy).result = .error error ↔
      IsFirstReported (request.stages policy) error := by
  unfold validate
  rw [stages, isFirstReported_cons_iff]
  by_cases unnamed : request.signature.name = ""
  · rw [if_pos unnamed]
    constructor
    · intro fails
      exact .inl ⟨unnamed, (Except.error.inj fails).symm⟩
    · rintro (⟨-, rfl⟩ | ⟨named, -⟩)
      · rfl
      · exact absurd ⟨unnamed, rfl⟩ (named _)
  · rw [if_neg unnamed, or_iff_right (fun fault => unnamed fault.1),
      and_iff_right (fun _ fault => unnamed fault.1)]
    refine bind_eq_error_iff
      (AttributeDeclaration.stopsAtFaults_checkAll.eq_error_iff [] .nil) (fun _ => ?_) error
    refine bind_eq_error_iff
      ((Argument.stopsAtFaults_checkFrom .input).eq_error_iff 0 rfl) (fun _ => ?_)
    refine bind_eq_error_iff
      ((Argument.stopsAtFaults_checkFrom .output).eq_error_iff 0 rfl) (fun _ => ?_)
    refine bind_eq_error_iff
      ((ShapeRule.stopsAtFaults_checkFrom request.signature policy).eq_error_iff [] .nil)
      (fun _ => ?_)
    refine bind_eq_error_iff (check?_eq_error_iff request.kernel) (fun _ error => ?_)
    exact ⟨nofun, fun fault => absurd fault IsFirstFault.not_nil⟩

/-- Checking a request that is not acceptable reports the first fault in the first stage that has
one.  If the operator and its attributes have different names, an attribute that is not a tag of the
vocabulary is reported, whatever comes after the attributes. -/
theorem validate_reports_first_fault (request : Request) (policy : ShapePolicy) :
    (∀ error, (request.validate policy).result = .error error ↔
        IsFirstReported (request.stages policy) error) ∧
      ∀ before declaration after,
        request.signature.name ≠ "" →
        (∀ declared ∈ request.signature.attributes, declared.name ≠ "") →
        (request.signature.attributes.map AttributeDeclaration.name).Nodup →
        request.signature.attributes = before ++ declaration :: after →
        (∀ earlier ∈ before, earlier.InVocabulary) → ¬ declaration.InVocabulary →
        (request.validate policy).result =
          .error (.unsupportedAttribute declaration.name declaration.kind.fault) := by
  refine ⟨result_validate_eq_error_iff request policy, ?_⟩
  intro before declaration after operatorNamed named distinct split known unknown
  rw [split] at named distinct
  have fault := AttributeDeclaration.isFirstFault_of_unknown named distinct known unknown
  rw [result_validate_eq_error_iff, stages, isFirstReported_cons_iff, isFirstReported_cons_iff,
    split]
  exact .inr ⟨fun _ unnamed => operatorNamed unnamed.1, .inl fault⟩

/-- Something is wrong in each section, and with two of the attributes. -/
def brokenRequest : Request where
  signature := {
    name := "Op"
    attributes := [⟨"N", .scalar "int32"⟩, ⟨"T", .scalar "Float"⟩, ⟨"dims", .composite .shape⟩]
    inputs := [⟨"x", "T"⟩, ⟨"", "T"⟩]
    outputs := [⟨"y", ""⟩] }
  shapeRules := [⟨0, .fixed [4, 0]⟩, ⟨2, .likeInput 5⟩]
  kernel := some { className := "" }

theorem brokenRequest_reports_first_fault :
    brokenRequest.signature.name ≠ "" ∧
      (∀ declared ∈ brokenRequest.signature.attributes, declared.name ≠ "") ∧
      (brokenRequest.signature.attributes.map AttributeDeclaration.name).Nodup ∧
      AttributeDeclaration.InVocabulary ⟨"N", .scalar "int32"⟩ ∧
      ¬ AttributeDeclaration.InVocabulary ⟨"T", .scalar "Float"⟩ ∧
      (brokenRequest.validate .strict).result =
        .error (.unsupportedAttribute "T" (.unknownTag "Float")) ∧
      IsFirstReported (brokenRequest.stages .strict)
        (.unsupportedAttribute "T" (.unknownTag "Float")) := by
  have operatorNamed : brokenRequest.signature.name ≠ "" := by decide
  have named : ∀ declared ∈ brokenRequest.signature.attributes, declared.name ≠ "" := by decide
  have distinct : (brokenRequest.signature.attributes.map AttributeDeclaration.name).Nodup := by
    decide
  have known : AttributeDeclaration.InVocabulary ⟨"N", .scalar "int32"⟩ :=
    ⟨"int32", by decide, rfl⟩
  have unknown : ¬ AttributeDeclaration.InVocabulary ⟨"T", .scalar "Float"⟩ := by
    rintro ⟨tag, member, kind⟩
    obtain rfl : "Float" = tag := AttributeKind.scalar.inj kind
    exact absurd member (by decide)
  obtain ⟨reports, unsupported⟩ := validate_reports_first_fault brokenRequest .strict
  have refused : (brokenRequest.validate .strict).result =
      .error (.unsupportedAttribute "T" (.unknownTag "Float")) :=
    unsupported [⟨"N", .scalar "int32"⟩] ⟨"T", .scalar "Float"⟩ [⟨"dims", .composite .shape⟩]
      operatorNamed named distinct rfl (List.forall_mem_singleton.mpr known) unknown
  exact ⟨operatorNamed, named, distinct, known, unknown, refused, (reports _).mp refused⟩

end Request

end OperatorSource
