import OperatorSource.Specification.Loading
import OperatorSource.Proofs.RequestRefusal

/-!
# Loading shape rules

A shape rule is written with dimensions or with an input, and dimensions are written as signed
integers.  This file says which written rules are loaded, as what, and what is reported of a list
with others among them.  Every dimension that is loaded is positive, so checking a loaded request
never finds a dimension of zero.
-/

namespace OperatorSource

namespace RuleEntry

/-- Exactly one of the dimensions and the input is written. -/
def HasOneSource (entry : RuleEntry) : Prop :=
  entry.dimensions.isSome ≠ entry.likeInput.isSome

def IsPositive (entry : RuleEntry) : Prop :=
  ∀ written ∈ entry.dimensions, ∀ dimension ∈ written, 1 ≤ dimension.toInt

end RuleEntry

namespace ShapeRule

/-- The rule that a written one gives; the dimensions are the same numbers. -/
inductive GivenBy : RuleEntry → ShapeRule → Prop
  | fixed {output : Nat} {written : List Int64} {dimensions : List Nat}
      (positive : ∀ dimension ∈ written, 1 ≤ dimension.toInt)
      (same : dimensions.map Int.ofNat = written.map Int64.toInt) :
      GivenBy ⟨output, some written, none⟩ ⟨output, .fixed dimensions⟩
  | likeInput {output input : Nat} :
      GivenBy ⟨output, none, some input⟩ ⟨output, .likeInput input⟩

/-- What is reported of a written rule.  Its dimensions do not matter if it has an input as well. -/
inductive Refused : RuleEntry → RequestError → Prop
  | both {output input : Nat} {written : List Int64} :
      Refused ⟨output, some written, some input⟩ (.malformedEntry (.ruleSourceUnclear output))
  | neither {output : Nat} :
      Refused ⟨output, none, none⟩ (.malformedEntry (.ruleSourceUnclear output))
  | notPositive {output : Nat} {before after : List Int64} {dimension : Int64}
      (positive : ∀ earlier ∈ before, 1 ≤ earlier.toInt) (bad : dimension.toInt < 1) :
      Refused ⟨output, some (before ++ dimension :: after), none⟩
        (.inconsistentRule output (.dimensionNotPositive before.length dimension.toInt))

theorem dimensionsFrom_eq_ok_iff {output position : Nat} {dimensions : List Int64}
    {found : List Nat} :
    dimensionsFrom output position dimensions = .ok found ↔
      (∀ dimension ∈ dimensions, 0 < dimension.toInt) ∧
        found = dimensions.map fun dimension => dimension.toInt.toNat := by
  induction dimensions generalizing position found with
  | nil => simp [dimensionsFrom, eq_comm]
  | cons dimension rest ih =>
      rw [dimensionsFrom, List.forall_mem_cons, List.map_cons]
      by_cases positive : 0 < dimension.toInt
      · rw [if_pos positive, Outcome.bind_eq_ok_iff]
        constructor
        · rintro ⟨others, later, both⟩
          obtain ⟨positives, rfl⟩ := ih.mp later
          exact ⟨⟨positive, positives⟩, (Except.ok.inj both).symm⟩
        · rintro ⟨⟨-, positives⟩, rfl⟩
          exact ⟨_, ih.mpr ⟨positives, rfl⟩, rfl⟩
      · rw [if_neg positive]
        exact ⟨nofun, fun both => absurd both.1.1 positive⟩

/-- What is reported of a dimension behind some others. -/
def DimensionFault (output : Nat) (earlier : List Int64) (dimension : Int64)
    (error : RequestError) : Prop :=
  dimension.toInt < 1 ∧
    error = .inconsistentRule output (.dimensionNotPositive earlier.length dimension.toInt)

theorem stopsAtFaults_dimensionsFrom (output : Nat) :
    StopsAtFaults (dimensionsFrom output) (fun position earlier => position = earlier.length)
      (DimensionFault output) where
  ends _ := ⟨[], rfl⟩
  stops {position earlier dimension rest error} tracked fault := by
    obtain ⟨bad, rfl⟩ := fault
    rw [dimensionsFrom, if_neg (by omega), tracked]
  continues {position earlier dimension rest} tracked sound := by
    have positive : 0 < dimension.toInt := by
      by_contra bad
      exact sound _ ⟨by omega, rfl⟩
    refine ⟨position + 1, by simp [tracked], fun error => ?_⟩
    rw [dimensionsFrom, if_pos positive, Outcome.bind_pure_eq_error_iff]

theorem map_ofNat_eq_iff {dimensions : List Nat} {written : List Int64}
    (positive : ∀ dimension ∈ written, 1 ≤ dimension.toInt) :
    dimensions.map Int.ofNat = written.map Int64.toInt ↔
      dimensions = written.map fun dimension => dimension.toInt.toNat := by
  constructor
  · intro same
    have back := congrArg (List.map Int.toNat) same
    rw [List.map_map, List.map_map] at back
    exact (List.map_id dimensions).symm.trans back
  · rintro rfl
    rw [List.map_map]
    refine List.map_congr_left fun dimension member => ?_
    exact Int.toNat_of_nonneg (by have := positive dimension member; omega)

theorem ofEntry_eq_ok_iff {entry : RuleEntry} {rule : ShapeRule} :
    ofEntry entry = .ok rule ↔ GivenBy entry rule := by
  constructor
  · intro loaded
    obtain ⟨output, _ | written, _ | input⟩ := entry
    · exact nomatch loaded
    · obtain rfl := Except.ok.inj loaded
      exact .likeInput
    · rw [ofEntry, Outcome.bind_eq_ok_iff] at loaded
      obtain ⟨dimensions, read, same⟩ := loaded
      obtain rfl := Except.ok.inj same
      obtain ⟨positive, values⟩ := dimensionsFrom_eq_ok_iff.mp read
      exact .fixed positive ((map_ofNat_eq_iff positive).mpr values)
    · exact nomatch loaded
  · intro gives
    cases gives with
    | fixed positive same =>
        rw [ofEntry, Outcome.bind_eq_ok_iff]
        exact ⟨_, dimensionsFrom_eq_ok_iff.mpr
          ⟨positive, (map_ofNat_eq_iff positive).mp same⟩, rfl⟩
    | likeInput => rfl

theorem dimensionsFrom_eq_error_iff {output : Nat} {written : List Int64} {error : RequestError} :
    dimensionsFrom output 0 written = .error error ↔ ∃ before dimension after,
      written = before ++ dimension :: after ∧ DimensionFault output before dimension error ∧
        ∀ earlier ∈ before, 1 ≤ earlier.toInt := by
  rw [(stopsAtFaults_dimensionsFrom output).eq_error_iff 0 rfl, IsFirstFault.iff_of_sound]
  intro earlier dimension
  constructor
  · intro sound
    by_contra bad
    exact sound _ ⟨by omega, rfl⟩
  · rintro positive error ⟨bad, -⟩
    omega

theorem ofEntry_eq_error_iff {entry : RuleEntry} {error : RequestError} :
    ofEntry entry = .error error ↔ Refused entry error := by
  constructor
  · intro refused
    obtain ⟨output, _ | written, _ | input⟩ := entry
    · obtain rfl := Except.error.inj refused
      exact .neither
    · exact nomatch refused
    · rw [ofEntry, Outcome.bind_pure_eq_error_iff, dimensionsFrom_eq_error_iff] at refused
      obtain ⟨before, dimension, after, rfl, ⟨bad, rfl⟩, positive⟩ := refused
      exact .notPositive positive bad
    · obtain rfl := Except.error.inj refused
      exact .both
  · intro fault
    cases fault with
    | both => rfl
    | neither => rfl
    | notPositive positive bad =>
        rw [ofEntry, Outcome.bind_pure_eq_error_iff, dimensionsFrom_eq_error_iff]
        exact ⟨_, _, _, rfl, ⟨bad, rfl⟩, positive⟩

theorem mapM_ofEntry_eq_error_iff {entries : List RuleEntry} {error : RequestError} :
    entries.mapM ofEntry = .error error ↔
      IsFirstFault (fun _ entry => Refused entry) entries error := by
  simp only [Outcome.mapM_eq_error_iff, ofEntry_eq_error_iff]

theorem mapM_ofEntry_eq_ok_iff {entries : List RuleEntry} {rules : List ShapeRule} :
    entries.mapM ofEntry = .ok rules ↔ List.Forall₂ GivenBy entries rules := by
  simp only [Outcome.mapM_eq_ok_iff, ofEntry_eq_ok_iff]

theorem exists_givenBy_iff {entry : RuleEntry} :
    (∃ rule, GivenBy entry rule) ↔ entry.HasOneSource ∧ entry.IsPositive := by
  constructor
  · rintro ⟨rule, given⟩
    cases given with
    | fixed positive same =>
        refine ⟨by simp [RuleEntry.HasOneSource], ?_⟩
        rintro _ ⟨⟩
        exact positive
    | likeInput =>
        refine ⟨by simp [RuleEntry.HasOneSource], ?_⟩
        rintro _ ⟨⟩
  · rintro ⟨oneSource, positive⟩
    obtain ⟨output, _ | written, _ | input⟩ := entry
    · exact absurd rfl oneSource
    · exact ⟨_, .likeInput⟩
    · have allPositive := positive written rfl
      exact ⟨_, .fixed allPositive ((map_ofNat_eq_iff allPositive).mpr rfl)⟩
    · exact absurd rfl oneSource

end ShapeRule

/-! ## Loaded requests -/

theorem Specification.shapeRules_of_request {specification : Specification} {request : Request}
    (gives : specification.request = .ok request) :
    (specification.shapeRules.getD []).mapM ShapeRule.ofEntry = .ok request.shapeRules := by
  simp only [Specification.request, Outcome.bind_eq_ok_iff] at gives
  obtain ⟨attributes, -, inputs, -, outputs, -, shapeRules, loaded, same⟩ := gives
  obtain rfl := Except.ok.inj same
  exact loaded

namespace Request

theorem exists_specification_of_ofYaml {text : String} {request : Request}
    (loads : ofYaml text = .ok request) :
    ∃ specification : Specification, specification.request = .ok request := by
  unfold ofYaml at loads
  split at loads
  · exact nomatch loads
  · split at loads
    · exact nomatch loads
    · exact ⟨_, Outcome.mapError_eq_ok_iff.mp loads⟩

/-- Fixed dimensions are positive and fit a signed integer of 64 bits. -/
def HasSignedDimensions (request : Request) : Prop :=
  ∀ rule ∈ request.shapeRules, ∀ dimensions, rule.shape = .fixed dimensions →
    ∀ dimension ∈ dimensions, 1 ≤ dimension ∧ dimension ≤ Yaml.Scalar.maxSigned

theorem hasSignedDimensions_of_ofYaml {text : String} {request : Request}
    (loads : ofYaml text = .ok request) : request.HasSignedDimensions := by
  obtain ⟨specification, gives⟩ := exists_specification_of_ofYaml loads
  have each := ShapeRule.mapM_ofEntry_eq_ok_iff.mp (specification.shapeRules_of_request gives)
  intro rule member dimensions written dimension dimensionMember
  obtain ⟨entry, -, given⟩ := Outcome.exists_gives_of_mem each member
  cases given with
  | fixed positive same =>
      obtain rfl := OutputShape.fixed.inj written
      have among := List.mem_map_of_mem (f := Int.ofNat) dimensionMember
      rw [same, List.mem_map] at among
      obtain ⟨number, numberMember, value⟩ := among
      have lower := positive number numberMember
      have upper := number.toInt_lt
      rw [value, Int.ofNat_eq_natCast] at lower upper
      have greatest : Yaml.Scalar.maxSigned = 9223372036854775807 := rfl
      omega
  | likeInput => exact nomatch written

theorem zeroDimension_not_reported {request : Request} (signed : request.HasSignedDimensions)
    (policy : ShapePolicy) (output position : Nat) :
    (request.validate policy).result ≠
      .error (.inconsistentRule output (.zeroDimension position)) := by
  intro refused
  rw [result_validate_eq_error_iff] at refused
  obtain ⟨-, stage, member, reported⟩ := refused.exists_fault
  simp only [stages, List.mem_cons, List.not_mem_nil, or_false] at member
  obtain rfl | rfl | rfl | rfl | rfl | rfl := member
  · cases reported.2
  · obtain ⟨earlier, declaration, -, fault⟩ := reported.exists_fault
    cases fault
  · obtain ⟨earlier, argument, -, fault⟩ := reported.exists_fault
    cases fault
  · obtain ⟨earlier, argument, -, fault⟩ := reported.exists_fault
    cases fault
  · obtain ⟨earlier, rule, ruleMember, fault⟩ := reported.exists_fault
    cases fault with
    | zeroDimension declared written first =>
        have positive := signed rule ruleMember _ written 0 (by simp)
        omega
  · cases reported.2

end Request

/-- A list of written rules is loaded if each has one source and positive dimensions, and otherwise
the first of the others is reported. -/
theorem ShapeRule.written_rules_load_exactly (entries : List RuleEntry) :
    ((∃ rules, entries.mapM ofEntry = .ok rules) ↔
        ∀ entry ∈ entries, entry.HasOneSource ∧ entry.IsPositive) ∧
      (∀ rules, entries.mapM ofEntry = .ok rules ↔
        List.Forall₂ GivenBy entries rules) ∧
      (∀ error, entries.mapM ofEntry = .error error ↔
        IsFirstFault (fun _ entry => Refused entry) entries error) ∧
      ∀ text request, Request.ofYaml text = .ok request →
        request.HasSignedDimensions ∧
          ∀ policy output position, (request.validate policy).result ≠
            .error (.inconsistentRule output (.zeroDimension position)) := by
  refine ⟨?_, fun _ => mapM_ofEntry_eq_ok_iff, fun _ => mapM_ofEntry_eq_error_iff, ?_⟩
  · simp only [mapM_ofEntry_eq_ok_iff, Outcome.exists_forall₂_iff, exists_givenBy_iff]
  · intro text request loads
    have signed := Request.hasSignedDimensions_of_ofYaml loads
    exact ⟨signed, Request.zeroDimension_not_reported signed⟩

def wideDocument : String :=
  "name: Wide\noutputs: [y: T]\nshape_rules: [\x7boutput: 0, dims: [1, 9223372036854775807]\x7d]\n"

def wideRequest : Request where
  signature := { name := "Wide", outputs := [⟨"y", "T"⟩] }
  shapeRules := [⟨0, .fixed [1, 9223372036854775807]⟩]

def brokenEntries : List RuleEntry :=
  [⟨1, none, some 0⟩, ⟨2, some [3, 0, -1], none⟩, ⟨0, none, none⟩]

/-- The greatest dimension that can be written, and rules of which two are at fault. -/
theorem wideDocument_loads_exactly :
    Request.ofYaml wideDocument = .ok wideRequest ∧ wideRequest.HasSignedDimensions ∧
      (wideRequest.validate .strict).result ≠ .error (.inconsistentRule 0 (.zeroDimension 0)) ∧
      IsFirstFault (fun _ entry => ShapeRule.Refused entry) brokenEntries
        (.inconsistentRule 2 (.dimensionNotPositive 1 0)) := by
  have loads : Request.ofYaml wideDocument = .ok wideRequest :=
    Outcome.eq_ok_of_toOption (by decide +kernel)
  obtain ⟨-, -, reports, loaded⟩ := ShapeRule.written_rules_load_exactly brokenEntries
  obtain ⟨signed, neverZero⟩ := loaded wideDocument wideRequest loads
  exact ⟨loads, signed, neverZero .strict 0 0, (reports _).mp rfl⟩

end OperatorSource
