import OperatorSource.Proofs.FlatSourceText
import OperatorSource.Proofs.ShapeProgramEffect

/-!
# Repeated shape rules under the two policies

The strict policy refuses a second rule for an output where the permissive one only reports it.
This file proves that nothing else depends on the policy: the strict policy accepts what the
permissive one accepts and what has no repetition, and what both accept comes out the same, down to
the generated text.  It also proves that a repetition can always be removed: when only the last rule
for each output is kept, whatever the permissive policy accepted is accepted by the strict one.
-/

namespace OperatorSource

open ShapeProgram

namespace ShapeRule

/-- No two of the rules are for the same output. -/
def Unrepeated (rules : List ShapeRule) : Prop :=
  rules.Pairwise fun earlier later => earlier.output ≠ later.output

theorem unrepeated_iff_nodup {rules : List ShapeRule} :
    Unrepeated rules ↔ (rules.map ShapeRule.output).Nodup :=
  List.pairwise_map.symm

/-- The rules without those that a later rule for the same output overrides. -/
def withoutOverridden : List ShapeRule → List ShapeRule
  | [] => []
  | rule :: rest =>
    if rule.output ∈ rest.map ShapeRule.output then withoutOverridden rest
    else rule :: withoutOverridden rest

/-- Some rules in the order in which they stood, such that each output has exactly the last of its
rules, if it had any. -/
structure KeepsLast (rules kept : List ShapeRule) : Prop where
  sublist : kept.Sublist rules
  rulesFor_eq : ∀ output, rulesFor kept output = (lastRule? rules output).toList

theorem rulesFor_cons (rule : ShapeRule) (rest : List ShapeRule) (output : Nat) :
    rulesFor (rule :: rest) output =
      if rule.output = output then rule :: rulesFor rest output else rulesFor rest output := by
  simp [rulesFor, List.filter_cons]

theorem rulesFor_eq_nil_iff {rules : List ShapeRule} {output : Nat} :
    rulesFor rules output = [] ↔ output ∉ rules.map ShapeRule.output := by
  simp [rulesFor, List.filter_eq_nil_iff]

theorem lastRule?_cons (rule : ShapeRule) (rest : List ShapeRule) (output : Nat) :
    lastRule? (rule :: rest) output =
      if rule.output = output ∧ output ∉ rest.map ShapeRule.output then some rule
      else lastRule? rest output := by
  rw [lastRule?, lastRule?, rulesFor_cons]
  by_cases same : rule.output = output
  · rw [if_pos same]
    by_cases last : output ∉ rest.map ShapeRule.output
    · rw [if_pos ⟨same, last⟩, rulesFor_eq_nil_iff.mpr last, List.getLast?_singleton]
    · rw [if_neg (fun both => last both.2)]
      cases later : rulesFor rest output with
      | nil => exact absurd (rulesFor_eq_nil_iff.mp later) last
      | cons next others => exact List.getLast?_cons_cons
  · rw [if_neg same, if_neg (fun both => same both.1)]

theorem withoutOverridden_sublist (rules : List ShapeRule) :
    (withoutOverridden rules).Sublist rules := by
  induction rules with
  | nil => exact List.Sublist.slnil
  | cons rule rest ih =>
      rw [withoutOverridden]
      split
      · exact ih.cons rule
      · exact ih.cons_cons rule

theorem rulesFor_withoutOverridden (rules : List ShapeRule) (output : Nat) :
    rulesFor (withoutOverridden rules) output = (lastRule? rules output).toList := by
  induction rules with
  | nil => rfl
  | cons rule rest ih =>
      rw [withoutOverridden, lastRule?_cons]
      by_cases overridden : rule.output ∈ rest.map ShapeRule.output
      · have kept : ¬ (rule.output = output ∧ output ∉ rest.map ShapeRule.output) := by
          rintro ⟨rfl, last⟩
          exact last overridden
        rw [if_pos overridden, if_neg kept, ih]
      · rw [if_neg overridden, rulesFor_cons, ih]
        by_cases same : rule.output = output
        · subst same
          have none : lastRule? rest rule.output = none := by
            rw [lastRule?, rulesFor_eq_nil_iff.mpr overridden, List.getLast?_nil]
          rw [if_pos rfl, if_pos ⟨rfl, overridden⟩, none]
          rfl
        · rw [if_neg same, if_neg (fun both => same both.1)]

theorem keepsLast_withoutOverridden (rules : List ShapeRule) :
    KeepsLast rules (withoutOverridden rules) :=
  ⟨withoutOverridden_sublist rules, rulesFor_withoutOverridden rules⟩

theorem KeepsLast.unrepeated {rules kept : List ShapeRule} (keeps : KeepsLast rules kept) :
    Unrepeated kept := by
  apply List.pairwise_iff_forall_sublist.mpr
  intro earlier later inOrder same
  -- Both rules would be among the rules for their output, of which there is at most one.
  have both : [earlier, later].Sublist (rulesFor kept later.output) := by
    have filtered := inOrder.filter fun rule => decide (rule.output = later.output)
    simpa [rulesFor, same] using filtered
  rw [keeps.rulesFor_eq] at both
  have short := both.length_le
  cases found : lastRule? rules later.output with
  | none => simp [found] at short
  | some rule => simp [found] at short

end ShapeRule

namespace Request

open ShapeRule

theorem wellFormed_strict_iff {request : Request} :
    request.WellFormed .strict ↔
      request.WellFormed .permissive ∧ Unrepeated request.shapeRules := by
  rw [unrepeated_iff_nodup]
  constructor
  · intro wellFormed
    exact ⟨{ wellFormed with rules_distinct := nofun }, wellFormed.rules_distinct rfl⟩
  · rintro ⟨wellFormed, distinct⟩
    exact { wellFormed with rules_distinct := fun _ => distinct }

theorem validate_strict_eq_ok_iff {request : Request} {validated : ValidatedRequest} :
    (request.validate .strict).result = .ok validated ↔
      (request.validate .permissive).result = .ok validated ∧ Unrepeated request.shapeRules := by
  rw [validate_eq_ok_iff_carries, validate_eq_ok_iff_carries, wellFormed_strict_iff]
  exact and_right_comm

theorem WellFormed.replaceRules {request : Request} {policy : ShapePolicy}
    (wellFormed : request.WellFormed policy) {rules : List ShapeRule}
    (kept : ∀ rule ∈ rules, rule ∈ request.shapeRules) (distinct : Unrepeated rules) :
    { request with shapeRules := rules }.WellFormed .strict where
  operator_named := wellFormed.operator_named
  attributes_named := wellFormed.attributes_named
  attributes_distinct := wellFormed.attributes_distinct
  attributes_known := wellFormed.attributes_known
  inputs_complete := wellFormed.inputs_complete
  outputs_complete := wellFormed.outputs_complete
  rules_fit rule member := wellFormed.rules_fit rule (kept rule member)
  rules_distinct _ := unrepeated_iff_nodup.mp distinct
  kernel_named := wellFormed.kernel_named

theorem Carries.replaceRules {request : Request} {validated : ValidatedRequest}
    (carries : request.Carries validated) (rules : List ShapeRule) :
    { request with shapeRules := rules }.Carries { validated with shapeRules := rules } :=
  { carries with shapeRules_eq := rfl }

end Request

theorem Settings.generate_strict_eq_ok_iff {settings : Settings} {request : Request}
    {text : String} :
    ({ settings with strictShapeRules := true }.generate request).result = .ok text ↔
      ({ settings with strictShapeRules := false }.generate request).result = .ok text ∧
        ShapeRule.Unrepeated request.shapeRules := by
  rw [generate_result_eq_ok_iff, generate_result_eq_ok_iff, ← exists_and_right]
  refine exists_congr fun validated => ?_
  change (request.validate .strict).result = _ ∧ _ ↔
    ((request.validate .permissive).result = _ ∧ _) ∧ _
  rw [Request.validate_strict_eq_ok_iff]
  exact and_right_comm

namespace Request

open ShapeRule

/-- The strict policy accepts exactly the requests that the permissive one accepts and that give no
output two rules; what is accepted and what is generated are the same under both.  A request of
which only the last rule for each output is kept is accepted by the strict policy as soon as the
whole request is accepted by the permissive one. -/
theorem strict_accepts_exactly_unrepeated_permissive (request : Request) :
    (∀ validated, (request.validate .strict).result = .ok validated ↔
      (request.validate .permissive).result = .ok validated ∧ Unrepeated request.shapeRules) ∧
    (∀ (settings : Settings) (text : String),
      ({ settings with strictShapeRules := true }.generate request).result = .ok text ↔
        ({ settings with strictShapeRules := false }.generate request).result = .ok text ∧
          Unrepeated request.shapeRules) ∧
    KeepsLast request.shapeRules (withoutOverridden request.shapeRules) ∧
    ∀ validated, (request.validate .permissive).result = .ok validated →
      ({ request with shapeRules := withoutOverridden request.shapeRules }.validate
          .strict).result =
        .ok { validated with shapeRules := withoutOverridden request.shapeRules } := by
  have keeps := keepsLast_withoutOverridden request.shapeRules
  refine ⟨fun validated => validate_strict_eq_ok_iff,
    fun settings text => Settings.generate_strict_eq_ok_iff, keeps, fun validated accepted => ?_⟩
  obtain ⟨wellFormed, carries⟩ := validate_eq_ok_iff_carries.mp accepted
  apply validate_eq_ok_iff_carries.mpr
  exact ⟨wellFormed.replaceRules (fun rule member => keeps.sublist.subset member) keeps.unrepeated,
    carries.replaceRules _⟩

/-- Two rules for the first output, with one for the second output between them. -/
def overriddenRules : Request where
  signature := {
    name := "Gather"
    inputs := [⟨"indices", "int64"⟩]
    outputs := [⟨"rows", "float"⟩, ⟨"order", "T"⟩] }
  shapeRules := [⟨0, .fixed [10]⟩, ⟨1, .likeInput 0⟩, ⟨0, .fixed [20]⟩]

theorem strict_accepts_lastRules_of_overriddenRules :
    ∃ validated, (overriddenRules.validate .permissive).result = .ok validated ∧
      (∀ other, (overriddenRules.validate .strict).result ≠ .ok other) ∧
      ({ overriddenRules with shapeRules := [⟨1, .likeInput 0⟩, ⟨0, .fixed [20]⟩] }.validate
          .strict).result =
        .ok { validated with shapeRules := [⟨1, .likeInput 0⟩, ⟨0, .fixed [20]⟩] } := by
  have accepted : (overriddenRules.validate .permissive).result = .ok
      ⟨"Gather", [], overriddenRules.signature.inputs, overriddenRules.signature.outputs,
        overriddenRules.shapeRules, none⟩ := by
    rfl
  obtain ⟨exactly, _, _, lastAccepted⟩ :=
    strict_accepts_exactly_unrepeated_permissive overriddenRules
  refine ⟨_, accepted, fun other refused => ?_, lastAccepted _ accepted⟩
  have unrepeated := unrepeated_iff_nodup.mp ((exactly other).mp refused).2
  exact absurd unrepeated (by decide)

end Request

end OperatorSource
