import OperatorSource.Delivery
import OperatorSource.Proofs.FileReplacement
import OperatorSource.Proofs.FirstFaults
import OperatorSource.Proofs.FlatSourceText
import Mathlib.Data.Finset.Card
import Mathlib.Data.List.TakeWhile

/-!
# What a generation reports

The events of a generation are described without a scan over the shape rules.  Under the permissive
policy there is a warning for each rule whose output is that of an earlier rule, as far as the rules
before the first one that does not fit; and only if the stages before the rules are passed.  Then
come three more events if the generation succeeds, and none if it fails.  A delivery into a file
adds one event when the file is written.
-/

namespace OperatorSource

/-- The stages before the shape rules find nothing wrong. -/
structure Signature.WellFormed (signature : Signature) : Prop where
  operator_named : signature.name ≠ ""
  attributes_named : ∀ declaration ∈ signature.attributes, declaration.name ≠ ""
  attributes_distinct : (signature.attributes.map AttributeDeclaration.name).Nodup
  attributes_known : ∀ declaration ∈ signature.attributes, declaration.InVocabulary
  inputs_complete : ∀ argument ∈ signature.inputs, argument.IsComplete
  outputs_complete : ∀ argument ∈ signature.outputs, argument.IsComplete

namespace Signature

theorem wellFormed_iff_checks {signature : Signature} :
    signature.WellFormed ↔ signature.name ≠ "" ∧
      (∃ attributes, AttributeDeclaration.checkAll [] signature.attributes = .ok attributes) ∧
      Argument.checkAll .input signature.inputs = .ok () ∧
      Argument.checkAll .output signature.outputs = .ok () := by
  -- These are the stages that a request without rules and without a kernel class goes through.
  let request : Request := { signature }
  constructor
  · intro wellFormed
    have acceptable : request.WellFormed .permissive := {
      wellFormed with
      rules_fit := fun rule member => absurd member List.not_mem_nil
      rules_distinct := nofun
      kernel_named := nofun }
    obtain ⟨validated, carries⟩ := acceptable.exists_carries
    have accepted := Request.validate_eq_ok_iff_carries.mpr ⟨acceptable, carries⟩
    obtain ⟨named, ⟨attributes, checked, _⟩, inputs, outputs, _⟩ :=
      Request.validate_eq_ok_iff_stages.mp accepted
    exact ⟨named, ⟨attributes, checked⟩, inputs, outputs⟩
  · rintro ⟨named, ⟨attributes, checked⟩, inputs, outputs⟩
    have accepted : (request.validate .permissive).result = .ok _ :=
      Request.validate_eq_ok_iff_stages.mpr
        ⟨named, ⟨attributes, checked, rfl⟩, inputs, outputs, rfl, rfl⟩
    exact { (Request.validate_eq_ok_iff_carries.mp accepted).1 with }

instance (signature : Signature) : Decidable signature.WellFormed :=
  decidable_of_iff (signature.name ≠ "" ∧
      (AttributeDeclaration.checkAll [] signature.attributes).toOption.isSome ∧
      Argument.checkAll .input signature.inputs = .ok () ∧
      Argument.checkAll .output signature.outputs = .ok ()) <| by
    rw [wellFormed_iff_checks]
    cases AttributeDeclaration.checkAll [] signature.attributes <;> simp [Except.toOption]

end Signature

namespace ShapeRule

instance (signature : Signature) (rule : ShapeRule) : Decidable (rule.Fits signature) :=
  decidable_of_iff _ fault?_eq_none_iff

/-- The rules before the first one that does not fit a signature. -/
def fittingPrefix (signature : Signature) (rules : List ShapeRule) : List ShapeRule :=
  rules.takeWhile fun rule => rule.Fits signature

/-- The rules whose output is that of a rule before them. -/
def repeating (rules : List ShapeRule) : List ShapeRule :=
  (rules.zipIdx.filter fun placed =>
    placed.1.output ∈ (rules.take placed.2).map ShapeRule.output).map Prod.fst

/-- What is reported of a rule that repeats an output. -/
def warning (signature : Signature) (rule : ShapeRule) : Log.Event :=
  .duplicateRule signature.name rule.output

theorem repeating_concat (rules : List ShapeRule) (rule : ShapeRule) :
    repeating (rules ++ [rule]) =
      repeating rules ++ if rule.output ∈ rules.map ShapeRule.output then [rule] else [] := by
  have before : (rules.zipIdx.filter fun placed =>
        placed.1.output ∈ ((rules ++ [rule]).take placed.2).map ShapeRule.output) =
      rules.zipIdx.filter fun placed =>
        placed.1.output ∈ (rules.take placed.2).map ShapeRule.output := by
    apply List.filter_congr
    intro placed member
    have inside : placed.2 ≤ rules.length := by
      have := List.snd_lt_of_mem_zipIdx member
      omega
    rw [List.take_append_of_le_length inside]
  rw [repeating, List.zipIdx_append, List.filter_append, before, List.map_append, ← repeating]
  congr 1
  by_cases repeated : rule.output ∈ rules.map ShapeRule.output
  · simp [List.filter, repeated]
  · simp [List.filter, repeated]

theorem length_repeating_add (rules : List ShapeRule) :
    (repeating rules).length + (rules.map ShapeRule.output).dedup.length = rules.length := by
  rw [← List.card_toFinset]
  induction rules using List.reverseRecOn with
  | nil => rfl
  | append_singleton rules rule ih =>
      have outputs : ((rules ++ [rule]).map ShapeRule.output).toFinset =
          insert rule.output (rules.map ShapeRule.output).toFinset := by
        rw [List.map_append, List.toFinset_append, Finset.union_comm]
        rfl
      rw [repeating_concat, outputs, List.length_append, List.length_append]
      by_cases repeated : rule.output ∈ rules.map ShapeRule.output
      · rw [if_pos repeated, Finset.insert_eq_of_mem (List.mem_toFinset.mpr repeated)]
        simp only [List.length_singleton]
        omega
      · rw [if_neg repeated, Finset.card_insert_of_notMem (List.mem_toFinset.not.mpr repeated)]
        simp only [List.length_nil, List.length_singleton]
        omega

theorem fittingPrefix_cons_of_fits {signature : Signature} {rule : ShapeRule}
    (fits : rule.Fits signature) (rest : List ShapeRule) :
    fittingPrefix signature (rule :: rest) = rule :: fittingPrefix signature rest :=
  List.takeWhile_cons_of_pos (by simpa using fits)

theorem fittingPrefix_cons_of_not_fits {signature : Signature} {rule : ShapeRule}
    (unfit : ¬ rule.Fits signature) (rest : List ShapeRule) :
    fittingPrefix signature (rule :: rest) = [] :=
  List.takeWhile_cons_of_neg (by simpa using unfit)

theorem fittingPrefix_eq_self {signature : Signature} {rules : List ShapeRule}
    (fit : ∀ rule ∈ rules, rule.Fits signature) : fittingPrefix signature rules = rules := by
  rw [fittingPrefix, List.takeWhile_eq_self_iff]
  simpa using fit

variable {signature : Signature}

theorem events_checkFrom_strict (seen : List Nat) (rules : List ShapeRule) :
    (checkFrom signature .strict seen rules).events = [] := by
  induction rules generalizing seen with
  | nil => rfl
  | cons rule rest ih =>
      cases faulty : rule.fault? signature with
      | some fault => rw [checkFrom_cons_of_fault faulty, Traced.events_fail]
      | none =>
          have fits : rule.Fits signature := fault?_eq_none_iff.mp faulty
          by_cases repeated : rule.output ∈ seen
          · rw [checkFrom_strict_cons_of_repeated fits repeated, Traced.events_fail]
          · rw [checkFrom_cons_of_fresh fits repeated, ih]

/-- The warnings of the rules that were checked before, and then those of the rest, are the warnings
of all of them as far as they fit. -/
theorem warnings_append_events_checkFrom {seen : List Nat} {earlier : List ShapeRule}
    (tracked : Tracks ShapeRule.output seen earlier) (rules : List ShapeRule) :
    (repeating earlier).map (warning signature) ++
        (checkFrom signature .permissive seen rules).events =
      (repeating (earlier ++ fittingPrefix signature rules)).map (warning signature) := by
  induction rules generalizing seen earlier with
  | nil =>
      rw [fittingPrefix, List.takeWhile_nil, List.append_nil]
      exact List.append_nil _
  | cons rule rest ih =>
      cases faulty : rule.fault? signature with
      | some fault =>
          have unfit : ¬ rule.Fits signature := by
            rw [← fault?_eq_none_iff, faulty]
            nofun
          rw [fittingPrefix_cons_of_not_fits unfit, checkFrom_cons_of_fault faulty,
            Traced.events_fail, List.append_nil, List.append_nil]
      | none =>
          have fits : rule.Fits signature := fault?_eq_none_iff.mp faulty
          rw [fittingPrefix_cons_of_fits fits, List.append_cons]
          by_cases repeated : rule.output ∈ seen
          · rw [← ih (tracked.concat_of_mem repeated), repeating_concat,
              if_pos ((tracked _).mp repeated),
              checkFrom_permissive_cons_of_repeated fits repeated, Traced.events_bind,
              List.map_append, List.append_assoc]
            rfl
          · rw [← ih (tracked.concat rule), repeating_concat,
              if_neg ((tracked _).not.mp repeated), List.append_nil,
              checkFrom_cons_of_fresh fits repeated]

theorem events_checkAll_permissive (rules : List ShapeRule) :
    (checkAll signature .permissive rules).events =
      (repeating (fittingPrefix signature rules)).map (warning signature) :=
  warnings_append_events_checkFrom .nil rules

end ShapeRule

namespace Request

/-- The warnings of a request under a policy. -/
def warnings (request : Request) (policy : ShapePolicy) : List Log.Event :=
  if policy = .permissive ∧ request.signature.WellFormed then
    (ShapeRule.repeating
      (ShapeRule.fittingPrefix request.signature request.shapeRules)).map
        (ShapeRule.warning request.signature)
  else []

variable {request : Request}

theorem WellFormed.signature {policy : ShapePolicy} (wellFormed : request.WellFormed policy) :
    request.signature.WellFormed :=
  { wellFormed with }

theorem level_of_mem_warnings {policy : ShapePolicy} {event : Log.Event}
    (member : event ∈ request.warnings policy) : event.level = .warn := by
  rw [warnings] at member
  split at member
  · obtain ⟨rule, _, rfl⟩ := List.mem_map.mp member
    rfl
  · exact nomatch member

/-- Each rule of an accepted request is for a new output or is warned about. -/
theorem length_warnings_add {policy : ShapePolicy} (wellFormed : request.WellFormed policy) :
    (request.warnings policy).length + (request.shapeRules.map ShapeRule.output).dedup.length =
      request.shapeRules.length := by
  cases policy with
  | permissive =>
      rw [warnings, if_pos ⟨rfl, wellFormed.signature⟩, List.length_map,
        ShapeRule.fittingPrefix_eq_self wellFormed.rules_fit, ShapeRule.length_repeating_add]
  | strict =>
      have distinct := wellFormed.rules_distinct rfl
      rw [warnings, if_neg (by simp), distinct.dedup, List.length_map, List.length_nil,
        Nat.zero_add]

theorem validate_of_unsound (unsound : ¬ request.signature.WellFormed) (policy : ShapePolicy) :
    ∃ error, request.validate policy = .fail error := by
  rw [Signature.wellFormed_iff_checks] at unsound
  unfold validate
  by_cases unnamed : request.signature.name = ""
  · exact ⟨_, if_pos unnamed⟩
  rw [if_neg unnamed]
  cases attributes : AttributeDeclaration.checkAll [] request.signature.attributes with
  | error error => exact ⟨error, rfl⟩
  | ok attributes =>
      rw [Traced.ofExcept_ok_bind]
      cases inputs : Argument.checkAll .input request.signature.inputs with
      | error error => exact ⟨error, rfl⟩
      | ok =>
          rw [Traced.ofExcept_ok_bind]
          cases outputs : Argument.checkAll .output request.signature.outputs with
          | error error => exact ⟨error, rfl⟩
          | ok => exact absurd ⟨unnamed, ⟨_, ‹_›⟩, inputs, outputs⟩ unsound

theorem validate_of_sound (sound : request.signature.WellFormed) (policy : ShapePolicy) :
    ∃ attributes, attributes.length = request.signature.attributes.length ∧
      request.validate policy = (do
        ShapeRule.checkAll request.signature policy request.shapeRules
        .ofExcept (KernelBinding.check? request.kernel)
        .report (.requestValidated request.signature.name attributes.length
          request.signature.inputs.length request.signature.outputs.length
          request.shapeRules.length)
        return ⟨request.signature.name, attributes, request.signature.inputs,
          request.signature.outputs, request.shapeRules, request.kernel⟩) := by
  obtain ⟨named, ⟨attributes, checked⟩, inputs, outputs⟩ := Signature.wellFormed_iff_checks.mp sound
  have sources := (AttributeDeclaration.checkAll_eq_ok_iff.mp checked).2.2
  refine ⟨attributes, by rw [← sources, List.length_map], ?_⟩
  unfold validate
  simp only [named, if_false, checked, inputs, outputs, Traced.ofExcept_ok_bind]

/-- What is reported of a request that is accepted. -/
def accepted (request : Request) : Log.Event :=
  .requestValidated request.signature.name request.signature.attributes.length
    request.signature.inputs.length request.signature.outputs.length request.shapeRules.length

theorem events_checkAll_of_sound (sound : request.signature.WellFormed) (policy : ShapePolicy) :
    (ShapeRule.checkAll request.signature policy request.shapeRules).events =
      request.warnings policy := by
  cases policy with
  | strict => exact ShapeRule.events_checkFrom_strict [] request.shapeRules
  | permissive =>
      rw [warnings, if_pos ⟨rfl, sound⟩, ShapeRule.events_checkAll_permissive]

theorem events_validate (policy : ShapePolicy) :
    (request.validate policy).events =
      request.warnings policy ++ match (request.validate policy).result with
        | .error _ => []
        | .ok _ => [request.accepted] := by
  by_cases sound : request.signature.WellFormed
  · obtain ⟨attributes, sameLength, stages⟩ := validate_of_sound sound policy
    rw [stages, Traced.events_bind, Traced.result_bind, events_checkAll_of_sound sound, sameLength]
    congr 1
    cases (ShapeRule.checkAll request.signature policy request.shapeRules).result with
    | error error => rfl
    | ok => cases KernelBinding.check? request.kernel <;> rfl
  · obtain ⟨error, stops⟩ := validate_of_unsound sound policy
    rw [stops, warnings, if_neg (fun both => sound both.2)]
    rfl

end Request

/-! ## The events of a generation -/

/-- What is reported when a request gives a text: that it was accepted, that its fragments were
built, for which kernel class, and that they were rendered to so many bytes. -/
def Request.completions (request : Request) : Except RequestError String → List Log.Event
  | .error _ => []
  | .ok text => [request.accepted,
      .fragmentsBuilt request.signature.name (request.kernel.map KernelBinding.className),
      .sourceRendered request.signature.name text.toUTF8.size]

theorem Request.level_of_mem_completions {request : Request} {result : Except RequestError String}
    {event : Log.Event} (member : event ∈ request.completions result) : event.level = .debug := by
  cases result with
  | error error => exact nomatch member
  | ok text =>
      simp only [completions, List.mem_cons, List.not_mem_nil, or_false] at member
      obtain rfl | rfl | rfl := member <;> rfl

/-- What is reported of a delivery: that a file was written, if one was. -/
def Destination.writings {Files : Type} [FileSystem Files] (destination : Destination)
    (files : Files) : Except RequestError String → List Log.Event
  | .error _ => []
  | .ok text => match destination with
    | .standardOutput => []
    | .file path => match (FileSystem.write files path text).1 with
      | .error _ => []
      | .ok _ => [.sourceWritten path text.toUTF8.size]

namespace Settings

variable (settings : Settings) (request : Request)

theorem events_generate :
    (settings.generate request).events =
      request.warnings settings.policy ++
        request.completions (settings.generate request).result := by
  simp only [generate, build, Traced.events_bind, Traced.result_bind, Request.events_validate,
    List.append_assoc]
  cases accepted : (request.validate settings.policy).result with
  | error error => rfl
  | ok validated =>
      obtain ⟨_, carries⟩ := Request.validate_eq_ok_iff_carries.mp accepted
      dsimp only [Except.bind]
      rw [carries.name_eq, carries.kernel_eq]
      rfl

section Delivering

variable {Files : Type} [FileSystem Files] (world : World Files) (destination : Destination)

theorem events_generateTo :
    ((settings.generateTo request destination).run world).1.events =
      (settings.generate request).events ++
        destination.writings world.files (settings.generate request).result := by
  cases made : (settings.generate request).result with
  | error error =>
      rw [run_generateTo_of_refused made, Destination.writings, List.append_nil]
  | ok text =>
      rw [run_generateTo_of_made made]
      refine congrArg ((settings.generate request).events ++ ·) ?_
      cases destination with
      | standardOutput => rfl
      | file path =>
          rw [Destination.deliver, Effect.run_writeFile, Destination.writings]
          cases (FileSystem.write world.files path text).1 <;> rfl

theorem result_generateTo_eq_ok_iff :
    ((settings.generateTo request destination).run world).1.result = .ok () ↔
      ∃ text, (settings.generate request).result = .ok text ∧
        ∀ path, destination = .file path →
          (FileSystem.write world.files path text).1 = .ok () := by
  cases made : (settings.generate request).result with
  | error error => simp [run_generateTo_of_refused made]
  | ok text =>
      rw [run_generateTo_of_made made]
      cases destination with
      | standardOutput => simp [Destination.deliver]
      | file path =>
          rw [Destination.deliver, Effect.run_writeFile]
          cases written : (FileSystem.write world.files path text).1 <;> simp [reportWrite, written]

end Delivering

/-- What a generation and a delivery report, in every case.  The warnings depend on the request and
the policy only; whether more is reported depends on the results.  That a file was written is
reported exactly where writing it succeeded, and a delivery into a file does not succeed
otherwise. -/
theorem generate_reports_exactly :
    (settings.generate request).events =
        request.warnings settings.policy ++
          request.completions (settings.generate request).result ∧
      (∀ error, (settings.generate request).result = .error error →
        ∀ event ∈ (settings.generate request).events, event.level = .warn) ∧
      (∀ text, (settings.generate request).result = .ok text →
        (settings.generate request).events.countP (fun event => event.level = .warn) +
            (request.shapeRules.map ShapeRule.output).dedup.length =
          request.shapeRules.length) ∧
      ∀ {Files : Type} [FileSystem Files] (world : World Files) (destination : Destination),
        ((settings.generateTo request destination).run world).1.events =
          (settings.generate request).events ++
            destination.writings world.files (settings.generate request).result ∧
        (((settings.generateTo request destination).run world).1.result = .ok () ↔
          ∃ text, (settings.generate request).result = .ok text ∧
            ∀ path, destination = .file path →
              (FileSystem.write world.files path text).1 = .ok ()) := by
  have generated := events_generate settings request
  refine ⟨generated, fun error refused event member => ?_, fun text given => ?_,
    fun world destination => ⟨events_generateTo settings request world destination,
      result_generateTo_eq_ok_iff settings request world destination⟩⟩
  · rw [generated, refused, Request.completions, List.append_nil] at member
    exact Request.level_of_mem_warnings member
  · obtain ⟨wellFormed, _⟩ := wellFormed_and_text_of_generate given
    have allWarnings : (request.warnings settings.policy).countP
        (fun event => event.level = .warn) = (request.warnings settings.policy).length := by
      rw [List.countP_eq_length]
      intro event member
      exact decide_eq_true (Request.level_of_mem_warnings member)
    have noWarnings : (request.completions (.ok text)).countP
        (fun event => event.level = .warn) = 0 := by
      rw [List.countP_eq_zero]
      intro event member
      rw [Request.level_of_mem_completions member]
      decide
    rw [generated, given, List.countP_append, allWarnings, noWarnings, Nat.add_zero,
      Request.length_warnings_add wellFormed]

end Settings

/-- Two rules for the first output, and a kernel class with some name. -/
def slicedRequest (className : String) : Request where
  signature := {
    name := "Slice"
    inputs := [⟨"rows", "T"⟩]
    outputs := [⟨"head", "T"⟩, ⟨"tail", "T"⟩] }
  shapeRules := [⟨0, .fixed [4]⟩, ⟨1, .likeInput 0⟩, ⟨0, .fixed [8]⟩]
  kernel := some { className }

/-- Without a name for the kernel class the warning is all there is.  With one the text goes into an
empty folder, but not into a folder that is missing there. -/
theorem generate_reports_slicedRequest :
    (Settings.generate {} (slicedRequest "")).result =
        .error (.malformedEntry .kernelClassEmpty) ∧
      (Settings.generate {} (slicedRequest "")).events = [.duplicateRule "Slice" 0] ∧
      ∃ text, (Settings.generate {} (slicedRequest "SliceOp")).result = .ok text ∧
        (Settings.generate {} (slicedRequest "SliceOp")).events =
          [.duplicateRule "Slice" 0, .requestValidated "Slice" 0 1 2 3,
            .fragmentsBuilt "Slice" (some "SliceOp"), .sourceRendered "Slice" text.toUTF8.size] ∧
        (Settings.generate {} (slicedRequest "SliceOp")).events.countP
          (fun event => event.level = .warn) + 2 = 3 ∧
        ((Settings.generateTo {} (slicedRequest "SliceOp") (.file "slice.cc")).run
            { files := ({} : FileTree) }).1.events =
          (Settings.generate {} (slicedRequest "SliceOp")).events ++
            [.sourceWritten "slice.cc" text.toUTF8.size] ∧
        ((Settings.generateTo {} (slicedRequest "SliceOp") (.file "out/slice.cc")).run
            { files := ({} : FileTree) }).1.events =
          (Settings.generate {} (slicedRequest "SliceOp")).events := by
  have warned (className : String) : (slicedRequest className).warnings .permissive =
      [.duplicateRule "Slice" 0] := by
    rfl
  have refused : (Settings.generate {} (slicedRequest "")).result =
      .error (.malformedEntry .kernelClassEmpty) := by
    rfl
  obtain ⟨text, given⟩ : ∃ text,
      (Settings.generate {} (slicedRequest "SliceOp")).result = .ok text :=
    ⟨_, rfl⟩
  obtain ⟨afterRefusal, _⟩ := Settings.generate_reports_exactly {} (slicedRequest "")
  obtain ⟨afterSuccess, _, counted, delivered⟩ :=
    Settings.generate_reports_exactly {} (slicedRequest "SliceOp")
  refine ⟨refused, ?_, text, given, ?_, counted text given, ?_, ?_⟩
  · rw [afterRefusal, refused]
    exact (List.append_nil _).trans (warned "")
  · rw [afterSuccess, given]
    exact congrArg (· ++ _) (warned "SliceOp")
  · have leads : FileTree.place? {} "slice.cc" = some ["slice.cc"] := by decide +kernel
    rw [(delivered { files := ({} : FileTree) } (.file "slice.cc")).1, given, Destination.writings,
      FileTree.write_of_place leads]
  · have nowhere : FileTree.place? {} "out/slice.cc" = none := by decide +kernel
    obtain ⟨fault, unwritten⟩ := FileTree.write_of_no_place nowhere text
    rw [(delivered { files := ({} : FileTree) } (.file "out/slice.cc")).1, given,
      Destination.writings, unwritten, List.append_nil]

end OperatorSource
