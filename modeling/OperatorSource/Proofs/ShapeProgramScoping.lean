import OperatorSource.Proofs.ShapeProgramReading

/-!
# Scoping in the programs of rules

A fixed rule binds a local that is named after its output and uses it at once.  The first such rule
of an output binds in the scope of the whole program, and every later one in a block of its own.  So
the names of the outer scope are those of the outputs with a fixed rule, each bound a single time,
and a block holds nothing but one binding and its use.
-/

namespace OperatorSource.ShapeProgram

theorem boundNames_append (first second : List Statement) :
    boundNames (first ++ second) = boundNames first ++ boundNames second :=
  List.filterMap_append

/-- A statement of a fixed rule is its binding or the assignment that follows. -/
theorem assign_mem_fixedStatements {output other : Nat} {dimensions : List Nat} {value : Value}
    (member : .assign other value ∈ fixedStatements output dimensions) :
    other = output ∧ value = .named (Registration.shapeVariable output) := by
  simpa [fixedStatements] using member

theorem assign_mem_ruleProgram {repeated : Bool} {rule : ShapeRule} {output : Nat} {value : Value}
    (member : .assign output value ∈ ruleProgram repeated rule) :
    rule.output = output ∧ ∀ index, value = .input index → rule.shape = .likeInput index := by
  obtain ⟨target, shape⟩ := rule
  cases shape with
  | likeInput input =>
      rw [ruleProgram, List.mem_singleton, Statement.assign.injEq] at member
      obtain ⟨rfl, rfl⟩ := member
      exact ⟨rfl, fun index sameValue => by rw [Value.input.inj sameValue]⟩
  | fixed dimensions =>
      cases repeated with
      | true => simp [ruleProgram] at member
      | false =>
          obtain ⟨rfl, rfl⟩ := assign_mem_fixedStatements member
          exact ⟨rfl, by simp⟩

theorem succeed_not_mem_ruleProgram (repeated : Bool) (rule : ShapeRule) :
    .succeed ∉ ruleProgram repeated rule := by
  obtain ⟨output, shape⟩ := rule
  cases shape with
  | likeInput input => simp [ruleProgram]
  | fixed dimensions => cases repeated <;> simp [ruleProgram, fixedStatements]

/-- Every statement of the outer scope belongs to some rule. -/
theorem exists_rule_of_mem_rulesProgram {earlier rules : List ShapeRule} {statement : Statement}
    (member : statement ∈ rulesProgram earlier rules) :
    ∃ rule ∈ rules, ∃ repeated, statement ∈ ruleProgram repeated rule := by
  induction rules generalizing earlier with
  | nil => exact nomatch member
  | cons rule rest ih =>
      rw [rulesProgram, List.mem_append] at member
      rcases member with here | later
      · exact ⟨rule, List.mem_cons_self, _, here⟩
      · obtain ⟨other, inRest, inProgram⟩ := ih later
        exact ⟨other, List.mem_cons_of_mem rule inRest, inProgram⟩

/-- A block holds the statements of one fixed rule. -/
theorem exists_fixed_of_mem_innerScopesOf {earlier rules : List ShapeRule}
    {scope : List Statement} (member : scope ∈ innerScopesOf (rulesProgram earlier rules)) :
    ∃ output dimensions, ⟨output, .fixed dimensions⟩ ∈ rules ∧
      scope = fixedStatements output dimensions := by
  induction rules generalizing earlier with
  | nil => exact absurd member List.not_mem_nil
  | cons rule rest ih =>
      rw [rulesProgram, innerScopesOf_append, List.mem_append] at member
      rcases member with here | later
      · obtain ⟨output, shape⟩ := rule
        cases shape with
        | likeInput input => exact absurd here List.not_mem_nil
        | fixed dimensions =>
            cases repeated : FlatSource.assignsFixed earlier output with
            | false => simp [ruleProgram, repeated, fixedStatements, innerScopesOf,
                Statement.innerScopes] at here
            | true =>
                have same : scope = fixedStatements output dimensions := by
                  simpa [ruleProgram, repeated, fixedStatements, innerScopesOf,
                    Statement.innerScopes] using here
                exact ⟨output, dimensions, List.mem_cons_self, same⟩
      · obtain ⟨output, dimensions, inRest, same⟩ := ih later
        exact ⟨output, dimensions, List.mem_cons_of_mem rule inRest, same⟩

/-- The outer scope binds a name at most once, and none for an output that an earlier rule gave a
fixed shape. -/
theorem nodup_boundNames_rulesProgram (earlier rules : List ShapeRule) :
    (boundNames (rulesProgram earlier rules)).Nodup ∧
      ∀ output, Registration.shapeVariable output ∈ boundNames (rulesProgram earlier rules) →
        FlatSource.assignsFixed earlier output = false := by
  induction rules generalizing earlier with
  | nil => exact ⟨List.nodup_nil, fun output member => nomatch member⟩
  | cons rule rest ih =>
      obtain ⟨output, shape⟩ := rule
      obtain ⟨laterOnce, laterFresh⟩ := ih (earlier ++ [⟨output, shape⟩])
      rw [rulesProgram, boundNames_append]
      -- Only a first fixed rule binds in the outer scope; a repeated one binds in its own block.
      cases shape with
      | likeInput input =>
          simp only [FlatSource.assignsFixed_concat_likeInput] at laterFresh
          exact ⟨laterOnce, laterFresh⟩
      | fixed dimensions =>
          have fresh (other : Nat) (member : Registration.shapeVariable other ∈
              boundNames (rulesProgram (earlier ++ [⟨output, .fixed dimensions⟩]) rest)) :
              other ≠ output ∧ FlatSource.assignsFixed earlier other = false := by
            have unassigned := laterFresh other member
            rw [← Bool.not_eq_true, FlatSource.assignsFixed_concat_fixed, not_or,
              Bool.not_eq_true] at unassigned
            exact unassigned
          cases repeated : FlatSource.assignsFixed earlier output with
          | true => exact ⟨laterOnce, fun other member => (fresh other member).2⟩
          | false =>
              have bindsFirst : boundNames (ruleProgram false ⟨output, .fixed dimensions⟩) =
                  [Registration.shapeVariable output] := rfl
              rw [bindsFirst, List.singleton_append]
              refine ⟨List.nodup_cons.mpr ⟨fun again => ?_, laterOnce⟩, fun other member => ?_⟩
              · exact (fresh output again).1 rfl
              · rcases List.mem_cons.mp member with sameName | later
                · rw [shapeVariable_inj.mp sameName, repeated]
                · exact (fresh other later).2

theorem BoundJustBefore.append {first second : List Statement} (inFirst : BoundJustBefore first)
    (inSecond : BoundJustBefore second) : BoundJustBefore (first ++ second) := by
  intro before output name after split
  rcases List.append_eq_append_iff.mp split with ⟨middle, before_eq, second_eq⟩ |
      ⟨middle, first_eq, rest_eq⟩
  · obtain ⟨dimensions, bound⟩ := inSecond middle output name after second_eq
    refine ⟨dimensions, ?_⟩
    rw [before_eq, List.getLast?_append, bound]
    rfl
  · cases middle with
    | nil =>
        -- The assignment would begin the second part, where nothing stands right before it.
        obtain ⟨dimensions, bound⟩ := inSecond [] output name after rest_eq.symm
        exact nomatch bound
    | cons statement middle =>
        rw [List.cons_append] at rest_eq
        obtain ⟨rfl, _⟩ := List.cons.inj rest_eq
        exact inFirst before output name middle first_eq

theorem boundJustBefore_singleton {statement : Statement}
    (other : ∀ output name, statement ≠ .assign output (.named name)) :
    BoundJustBefore [statement] := by
  intro before output name after split
  have member : .assign output (.named name) ∈ [statement] := by
    rw [split]
    exact List.mem_append_right before List.mem_cons_self
  exact absurd (List.mem_singleton.mp member).symm (other output name)

theorem boundJustBefore_fixedStatements (output : Nat) (dimensions : List Nat) :
    BoundJustBefore (fixedStatements output dimensions) := by
  intro before other name after split
  match before, split with
  | [], split => simp [fixedStatements] at split
  | [first], split =>
      simp only [fixedStatements, List.cons_append, List.nil_append, List.cons.injEq,
        Statement.assign.injEq, Value.named.injEq] at split
      obtain ⟨rfl, ⟨_, rfl⟩, _⟩ := split
      exact ⟨dimensions, rfl⟩
  | _ :: _ :: rest, split =>
      simp [fixedStatements] at split

theorem boundJustBefore_ruleProgram (repeated : Bool) (rule : ShapeRule) :
    BoundJustBefore (ruleProgram repeated rule) := by
  obtain ⟨output, shape⟩ := rule
  cases shape with
  | likeInput input => exact boundJustBefore_singleton (by simp)
  | fixed dimensions =>
      cases repeated with
      | true => exact boundJustBefore_singleton (by simp)
      | false => exact boundJustBefore_fixedStatements output dimensions

theorem boundJustBefore_rulesProgram (earlier rules : List ShapeRule) :
    BoundJustBefore (rulesProgram earlier rules) := by
  induction rules generalizing earlier with
  | nil =>
      intro before output name after split
      exact absurd split (by simp [rulesProgram])
  | cons rule rest ih => exact (boundJustBefore_ruleProgram _ rule).append (ih _)

theorem mem_scopes_rulesProgram {rules : List ShapeRule} {scope : List Statement}
    (member : scope ∈ scopes (rulesProgram [] rules ++ [.succeed])) :
    scope = rulesProgram [] rules ++ [.succeed] ∨
      ∃ output dimensions, ⟨output, .fixed dimensions⟩ ∈ rules ∧
        scope = fixedStatements output dimensions := by
  rcases List.mem_cons.mp member with whole | inner
  · exact .inl whole
  · rw [innerScopesOf_append, List.mem_append] at inner
    rcases inner with inRules | inReturn
    · exact .inr (exists_fixed_of_mem_innerScopesOf inRules)
    · exact nomatch inReturn

/-- Every assignment of the program is one of some rule. -/
theorem exists_rule_of_assign_mem {rules : List ShapeRule} {scope : List Statement}
    (inProgram : scope ∈ scopes (rulesProgram [] rules ++ [.succeed])) {output : Nat}
    {value : Value} (member : .assign output value ∈ scope) :
    ∃ rule ∈ rules, rule.output = output ∧
      ∀ index, value = .input index → rule.shape = .likeInput index := by
  rcases mem_scopes_rulesProgram inProgram with rfl | ⟨target, dimensions, inRules, rfl⟩
  · have inOuter : .assign output value ∈ rulesProgram [] rules := by simpa using member
    obtain ⟨rule, inRules, repeated, inRule⟩ := exists_rule_of_mem_rulesProgram inOuter
    exact ⟨rule, inRules, assign_mem_ruleProgram inRule⟩
  · obtain ⟨rfl, rfl⟩ := assign_mem_fixedStatements member
    exact ⟨_, inRules, rfl, fun index sameValue => nomatch sameValue⟩

/-- The program of rules that fit a signature is well scoped for its inputs and outputs. -/
theorem wellScoped_rulesProgram {signature : Signature} {rules : List ShapeRule}
    (fits : ∀ rule ∈ rules, rule.Fits signature) :
    WellScoped signature.inputs.length signature.outputs.length
      (rulesProgram [] rules ++ [.succeed]) where
  bound_once scope member := by
    rcases mem_scopes_rulesProgram member with rfl | ⟨output, dimensions, _, rfl⟩
    · have unnamed : boundNames [.succeed] = [] := rfl
      rw [boundNames_append, unnamed, List.append_nil]
      exact (nodup_boundNames_rulesProgram [] rules).1
    · exact List.pairwise_singleton _ (Registration.shapeVariable output)
  bound_just_before scope member := by
    rcases mem_scopes_rulesProgram member with rfl | ⟨output, dimensions, _, rfl⟩
    · exact (boundJustBefore_rulesProgram [] rules).append (boundJustBefore_singleton (by simp))
    · exact boundJustBefore_fixedStatements output dimensions
  outputs_declared scope inProgram output value member := by
    obtain ⟨rule, inRules, rfl, _⟩ := exists_rule_of_assign_mem inProgram member
    exact (fits rule inRules).output_declared
  inputs_declared scope inProgram output index member := by
    obtain ⟨rule, inRules, _, likeInput⟩ := exists_rule_of_assign_mem inProgram member
    exact (fits rule inRules).input_declared index (likeInput index rfl)
  returns_last := by
    refine ⟨rulesProgram [] rules, rfl, fun scope member returns => ?_⟩
    rcases List.mem_cons.mp member with rfl | inner
    · obtain ⟨rule, _, repeated, inRule⟩ := exists_rule_of_mem_rulesProgram returns
      exact succeed_not_mem_ruleProgram repeated rule inRule
    · obtain ⟨output, dimensions, _, rfl⟩ := exists_fixed_of_mem_innerScopesOf inner
      simp [fixedStatements] at returns

end OperatorSource.ShapeProgram
