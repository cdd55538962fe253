import OperatorSource.Proofs.ShapeProgramScoping
import Mathlib.Data.List.Induction

/-!
# What shape functions do

Running the program of some rules never faults, performs one assignment for every rule in order, and
leaves each output with the shape of the last rule for it.  Later rules override earlier ones
whether they are fixed or follow an input, so nothing but the order of the rules for one and the
same output matters.  The induction is on the rules, and carries that the names bound in the outer
scope are those of the outputs with a fixed rule so far.
-/

namespace OperatorSource

namespace ShapeProgram

/-- The rules for one output, in order. -/
def rulesFor (rules : List ShapeRule) (output : Nat) : List ShapeRule :=
  rules.filter (·.output = output)

def lastRule? (rules : List ShapeRule) (output : Nat) : Option ShapeRule :=
  (rulesFor rules output).getLast?

/-- There are as many inputs and outputs as the signature declares. -/
structure Context.Offers {Shape : Type} (context : Context Shape) (signature : Signature) :
    Prop where
  inputs_offered : context.inputCount = signature.inputs.length
  outputs_offered : context.outputCount = signature.outputs.length

/-- The outer scope binds the names of those outputs that some rule gave a fixed shape. -/
def Memory.Tracks {Shape : Type} (memory : Memory Shape) (rules : List ShapeRule) : Prop :=
  ∀ output, (memory.scope.lookup (Registration.shapeVariable output)).isSome =
    FlatSource.assignsFixed rules output

variable {Shape : Type} {context : Context Shape} {memory : Memory Shape} {signature : Signature}

/-- Going on from one state, the run of a program arrives at another one and is still going on. -/
def Context.Arrives (context : Context Shape) (memory : Memory Shape) (program : List Statement)
    (next : Memory Shape) : Prop :=
  next.returned = false ∧
    ∀ rest, context.executeAll memory (program ++ rest) = context.executeAll next rest

theorem Context.Arrives.append {middle next : Memory Shape} {first second : List Statement}
    (firstRun : context.Arrives memory first middle)
    (secondRun : context.Arrives middle second next) :
    context.Arrives memory (first ++ second) next := by
  refine ⟨secondRun.1, fun rest => ?_⟩
  rw [List.append_assoc, firstRun.2, secondRun.2]

theorem arrives_inputAssignment {output index : Nat} (running : memory.returned = false)
    (outputDeclared : output < context.outputCount) (inputDeclared : index < context.inputCount) :
    context.Arrives memory [.assign output (.input index)]
      (memory.assign output (context.input index)) := by
  have known : context.evaluate memory (.input index) = .ok (context.input index) :=
    if_pos inputDeclared
  exact ⟨running, Context.executeAll_cons (Context.execute_assign known outputDeclared) running⟩

/-- A fixed rule assigns what it has bound, since its name is looked up in the innermost scope. -/
theorem arrives_fixedStatements {output : Nat} (dimensions : List Nat)
    (running : memory.returned = false) (declared : output < context.outputCount)
    (fresh : memory.scope.lookup (Registration.shapeVariable output) = none) :
    context.Arrives memory (fixedStatements output dimensions)
      ({ memory with
        scope := (Registration.shapeVariable output, context.literal dimensions) ::
          memory.scope }.assign output (context.literal dimensions)) := by
  have known : context.evaluate
      { memory with
        scope := (Registration.shapeVariable output, context.literal dimensions) :: memory.scope }
      (.named (Registration.shapeVariable output)) = .ok (context.literal dimensions) := by
    simp [Context.evaluate]
  refine ⟨running, fun rest => ?_⟩
  rw [fixedStatements, List.cons_append,
    Context.executeAll_cons (Context.execute_bind fresh dimensions) running, List.cons_append,
    Context.executeAll_cons (Context.execute_assign known declared) running, List.nil_append]

theorem arrives_block_fixedStatements {output : Nat} (dimensions : List Nat)
    (running : memory.returned = false) (declared : output < context.outputCount) :
    context.Arrives memory [.block (fixedStatements output dimensions)]
      (memory.assign output (context.literal dimensions)) := by
  have inner : context.Arrives
      { memory with scope := [], enclosing := memory.scope :: memory.enclosing }
      (fixedStatements output dimensions) _ :=
    arrives_fixedStatements dimensions running declared rfl
  have bodyRun := inner.2 []
  rw [List.append_nil, Context.executeAll] at bodyRun
  exact ⟨running, Context.executeAll_cons (Context.execute_block bodyRun) running⟩

/-- One more rule makes its own assignment, whatever the form in which its statements stand. -/
theorem exists_arrives_ruleProgram {earlier : List ShapeRule} {rule : ShapeRule}
    (offers : context.Offers signature) (fits : rule.Fits signature)
    (running : memory.returned = false) (tracked : memory.Tracks earlier) :
    ∃ next, context.Arrives memory
        (ruleProgram (FlatSource.assignsFixed earlier rule.output) rule) next ∧
      next.Tracks (earlier ++ [rule]) ∧
      next.outputs = memory.outputs.set rule.output (some (context.shape rule.shape)) ∧
      next.assignments = memory.assignments ++ [(rule.output, context.shape rule.shape)] := by
  have declared : rule.output < context.outputCount := by
    rw [offers.outputs_offered]
    exact fits.output_declared
  obtain ⟨output, shape⟩ := rule
  cases shape with
  | likeInput index =>
      have inputDeclared : index < context.inputCount := by
        rw [offers.inputs_offered]
        exact fits.input_declared index rfl
      refine ⟨memory.assign output (context.input index),
        arrives_inputAssignment running declared inputDeclared, fun other => ?_, rfl, rfl⟩
      rw [FlatSource.assignsFixed_concat_likeInput]
      exact tracked other
  | fixed dimensions =>
      cases repeated : FlatSource.assignsFixed earlier output with
      | true =>
          refine ⟨memory.assign output (context.literal dimensions),
            arrives_block_fixedStatements dimensions running declared, fun other => ?_, rfl, rfl⟩
          -- The scope of the block is gone, and its name was bound in the outer scope before.
          rw [FlatSource.assignsFixed_concat_repeated repeated]
          exact tracked other
      | false =>
          have fresh : memory.scope.lookup (Registration.shapeVariable output) = none := by
            rw [← Option.isNone_iff_eq_none, ← Option.not_isSome, tracked output, repeated]
            rfl
          refine ⟨_, arrives_fixedStatements dimensions running declared fresh, fun other => ?_,
            rfl, rfl⟩
          rw [Bool.eq_iff_iff, FlatSource.assignsFixed_concat_fixed, ← tracked other]
          by_cases same : other = output
          · simp [Memory.assign, same]
          · have otherName : (Registration.shapeVariable other ==
                Registration.shapeVariable output) = false :=
              beq_false_of_ne fun sameName => same (shapeVariable_inj.mp sameName)
            simp [Memory.assign, List.lookup_cons, otherName, same]

theorem exists_arrives_rulesProgram {earlier rules : List ShapeRule}
    (offers : context.Offers signature) (fits : ∀ rule ∈ rules, rule.Fits signature)
    (running : memory.returned = false) (tracked : memory.Tracks earlier) :
    ∃ next, context.Arrives memory (rulesProgram earlier rules) next ∧
      next.outputs = rules.foldl (fun outputs rule =>
        outputs.set rule.output (some (context.shape rule.shape))) memory.outputs ∧
      next.assignments = memory.assignments ++
        rules.map fun rule => (rule.output, context.shape rule.shape) := by
  induction rules generalizing earlier memory with
  | nil => exact ⟨memory, ⟨running, fun rest => rfl⟩, rfl, (List.append_nil _).symm⟩
  | cons rule rest ih =>
      rw [List.forall_mem_cons] at fits
      obtain ⟨middle, firstRun, stillTracked, outputs, assignments⟩ :=
        exists_arrives_ruleProgram offers fits.1 running tracked
      obtain ⟨next, restRun, laterOutputs, laterAssignments⟩ := ih fits.2 firstRun.1 stillTracked
      refine ⟨next, firstRun.append restRun, ?_, ?_⟩
      · rw [laterOutputs, outputs, List.foldl_cons]
      · rw [laterAssignments, assignments, List.append_assoc]
        rfl

theorem lastRule?_concat (rules : List ShapeRule) (rule : ShapeRule) (output : Nat) :
    lastRule? (rules ++ [rule]) output =
      if rule.output = output then some rule else lastRule? rules output := by
  rw [lastRule?, rulesFor, List.filter_append]
  by_cases same : rule.output = output
  · simp [same]
  · simp [same, lastRule?, rulesFor]

/-- Setting outputs one after the other leaves each one as the last rule for it says. -/
theorem foldl_set_eq_map_lastRule? (count : Nat) (shapeOf : ShapeRule → Shape)
    (rules : List ShapeRule) :
    rules.foldl (fun outputs rule => outputs.set rule.output (some (shapeOf rule)))
        (List.replicate count none) =
      (List.range count).map fun output => (lastRule? rules output).map shapeOf := by
  induction rules using List.reverseRecOn with
  | nil => simp [lastRule?, rulesFor, List.map_const']
  | append_singleton rules rule ih =>
      rw [List.foldl_append, ih, List.foldl_cons, List.foldl_nil]
      apply List.ext_getElem
      · simp
      · intro output _ _
        rw [List.getElem_set, List.getElem_map, List.getElem_map, List.getElem_range,
          lastRule?_concat]
        split <;> rfl

/-- The run of a whole program of rules. -/
theorem run_rulesProgram {rules : List ShapeRule} (offers : context.Offers signature)
    (fits : ∀ rule ∈ rules, rule.Fits signature) :
    ∃ final, context.run (rulesProgram [] rules ++ [.succeed]) = .ok final ∧
      final.assignments = rules.map (fun rule => (rule.output, context.shape rule.shape)) ∧
      final.outputs = (List.range signature.outputs.length).map fun output =>
        (lastRule? rules output).map fun rule => context.shape rule.shape := by
  have nothingBound : (Memory.initial context.outputCount : Memory Shape).Tracks [] :=
    fun output => rfl
  obtain ⟨next, arrives, outputs, assignments⟩ :=
    exists_arrives_rulesProgram offers fits rfl nothingBound
  refine ⟨{ next with returned := true }, ?_, assignments, ?_⟩
  · -- What is left to run after the rules is the return alone.
    rw [Context.run, arrives.2]
    rfl
  · exact outputs.trans
      (offers.outputs_offered ▸ foldl_set_eq_map_lastRule? context.outputCount _ rules)

/-! ## Rules in another order -/

theorem perm_of_rulesFor_eq {first second : List ShapeRule}
    (sameOrder : ∀ output, rulesFor first output = rulesFor second output) : first.Perm second := by
  rw [List.perm_iff_count]
  intro rule
  have counted (rules : List ShapeRule) :
      (rulesFor rules rule.output).count rule = rules.count rule :=
    List.count_filter (by simp)
  rw [← counted first, ← counted second, sameOrder]

end ShapeProgram

namespace Request

open ShapeProgram

theorem WellFormed.reorder {request : Request} {policy : ShapePolicy}
    (wellFormed : request.WellFormed policy) {reordered : List ShapeRule}
    (sameRules : reordered.Perm request.shapeRules) :
    { request with shapeRules := reordered }.WellFormed policy where
  operator_named := wellFormed.operator_named
  attributes_named := wellFormed.attributes_named
  attributes_distinct := wellFormed.attributes_distinct
  attributes_known := wellFormed.attributes_known
  inputs_complete := wellFormed.inputs_complete
  outputs_complete := wellFormed.outputs_complete
  rules_fit rule member := wellFormed.rules_fit rule (sameRules.mem_iff.mp member)
  rules_distinct strict :=
    (sameRules.map ShapeRule.output).nodup_iff.mpr (wellFormed.rules_distinct strict)
  kernel_named := wellFormed.kernel_named

/-- The literal of an accepted request with rules, its program, and what the program does. -/
theorem exists_shapeFunction_program {request : Request} {policy : ShapePolicy}
    {validated : ValidatedRequest}
    (accepted : (request.validate policy).result = .ok validated)
    (ruled : request.shapeRules ≠ []) :
    ∃ literal, validated.shapeFunction? = some literal ∧
      ofLines? literal.lines = some (rulesProgram [] request.shapeRules ++ [.succeed]) := by
  have carries := (validate_eq_ok_iff_carries.mp accepted).2
  refine ⟨Registration.shapeFunction request.shapeRules, ?_, ofLines?_shapeFunction _⟩
  rw [ValidatedRequest.shapeFunction?, carries.shapeRules_eq, if_neg ruled]

/-- The shape function of an accepted request is a well-scoped program that performs the rules in
order, so that every output ends with the shape of the last rule for it.  Rules for different
outputs can change places without any effect on the outputs. -/
theorem shapeFunction_realizes_last_rules {request : Request} {policy : ShapePolicy}
    {validated : ValidatedRequest}
    (accepted : (request.validate policy).result = .ok validated)
    (ruled : request.shapeRules ≠ []) :
    ∃ literal program, validated.shapeFunction? = some literal ∧
      ofLines? literal.lines = some program ∧
      WellScoped request.signature.inputs.length request.signature.outputs.length program ∧
      (∀ (Shape : Type) (context : Context Shape), context.Offers request.signature →
        ∃ final, context.run program = .ok final ∧
          final.assignments = request.shapeRules.map (fun rule =>
            (rule.output, context.shape rule.shape)) ∧
          final.outputs = (List.range request.signature.outputs.length).map fun output =>
            (lastRule? request.shapeRules output).map fun rule => context.shape rule.shape) ∧
      ∀ reordered, (∀ output, rulesFor reordered output = rulesFor request.shapeRules output) →
        ∃ revalidated otherLiteral otherProgram,
          ({ request with shapeRules := reordered }.validate policy).result = .ok revalidated ∧
          revalidated.shapeFunction? = some otherLiteral ∧
          ofLines? otherLiteral.lines = some otherProgram ∧
          ∀ (Shape : Type) (context : Context Shape), context.Offers request.signature →
            (context.run otherProgram).map Memory.outputs =
              (context.run program).map Memory.outputs := by
  have wellFormed := (validate_eq_ok_iff_carries.mp accepted).1
  obtain ⟨literal, written, read⟩ := exists_shapeFunction_program accepted ruled
  refine ⟨literal, _, written, read, wellScoped_rulesProgram wellFormed.rules_fit,
    fun Shape context offers => run_rulesProgram offers wellFormed.rules_fit,
    fun reordered sameOrder => ?_⟩
  have sameRules := perm_of_rulesFor_eq sameOrder
  have otherWellFormed := wellFormed.reorder sameRules
  have otherRuled : reordered ≠ [] := by
    rintro rfl
    exact ruled sameRules.nil_eq.symm
  obtain ⟨revalidated, carries⟩ := otherWellFormed.exists_carries
  have reaccepted := validate_eq_ok_iff_carries.mpr ⟨otherWellFormed, carries⟩
  obtain ⟨otherLiteral, otherWritten, otherRead⟩ :=
    exists_shapeFunction_program reaccepted otherRuled
  refine ⟨revalidated, otherLiteral, _, reaccepted, otherWritten, otherRead,
    fun Shape context offers => ?_⟩
  obtain ⟨final, ran, _, outputs⟩ := run_rulesProgram offers wellFormed.rules_fit
  obtain ⟨otherFinal, otherRan, _, otherOutputs⟩ :=
    run_rulesProgram offers otherWellFormed.rules_fit
  have sameOutputs : otherFinal.outputs = final.outputs := by
    rw [outputs, otherOutputs]
    simp only [lastRule?, sameOrder]
  rw [ran, otherRan]
  exact congrArg Except.ok sameOutputs

/-- Fixed rules and rules that follow an input, mixed and repeated, with one output left alone. -/
def mixedRules : Request where
  signature := {
    name := "Split"
    inputs := [⟨"values", "float"⟩]
    outputs := [⟨"first", "float"⟩, ⟨"second", "T"⟩, ⟨"third", "int32"⟩] }
  shapeRules := [⟨0, .fixed [2, 3]⟩, ⟨1, .fixed []⟩, ⟨0, .likeInput 0⟩, ⟨1, .likeInput 0⟩,
    ⟨0, .fixed [4]⟩]

theorem shapeFunction_mixedRules :
    mixedRules.shapeRules ≠ [] ∧
      ∃ validated literal program final,
        (mixedRules.validate .permissive).result = .ok validated ∧
        validated.shapeFunction? = some literal ∧ ofLines? literal.lines = some program ∧
        WellScoped 1 3 program ∧
        (⟨id, 1, fun _ => [9], 3⟩ : Context (List Nat)).run program = .ok final ∧
        final.outputs = [some [4], some [9], none] := by
  have accepted : (mixedRules.validate .permissive).result = .ok
      ⟨"Split", [], mixedRules.signature.inputs, mixedRules.signature.outputs,
        mixedRules.shapeRules, none⟩ := by
    rfl
  obtain ⟨literal, program, written, read, wellScoped, runs, _⟩ :=
    shapeFunction_realizes_last_rules accepted (by decide)
  obtain ⟨final, ran, _, outputs⟩ := runs (List Nat) ⟨id, 1, fun _ => [9], 3⟩ ⟨rfl, rfl⟩
  exact ⟨by decide, _, literal, program, final, accepted, written, read, wellScoped, ran, outputs⟩

end Request

end OperatorSource
