import OperatorSource.Proofs.Outcomes
import Mathlib.Data.List.Forall2

/-!
# First faults

Entries are looked at in order, and the first one that is at fault decides the error.  Whether an
entry is at fault may depend on those before it.  A loop that keeps track of the earlier entries in
some state, and stops at the first fault, reports the first fault in this sense: this is proved once
for all loops, from what one step does.  A sequence of stages is such a list too; its entries are
the stages, each given by the errors that it may report.
-/

namespace OperatorSource

variable {ε α β σ : Type}

/-- One of the entries is at fault with this error, and no entry before it is at fault. -/
def IsFirstFault (faulty : List α → α → ε → Prop) (entries : List α) (error : ε) : Prop :=
  ∃ before entry after, entries = before ++ entry :: after ∧ faulty before entry error ∧
    ∀ earlier other later, before = earlier ++ other :: later →
      ∀ otherError, ¬ faulty earlier other otherError

/-- The first of some stages that reports an error reports this one. -/
def IsFirstReported (stages : List (ε → Prop)) (error : ε) : Prop :=
  IsFirstFault (fun _ stage => stage) stages error

namespace IsFirstFault

variable {faulty : List α → α → ε → Prop} {error : ε}

theorem not_nil : ¬ IsFirstFault faulty [] error := by
  rintro ⟨before, entry, after, split, -⟩
  cases before <;> exact nomatch split

theorem cons_iff {entry : α} {rest : List α} :
    IsFirstFault faulty (entry :: rest) error ↔
      faulty [] entry error ∨ (∀ other, ¬ faulty [] entry other) ∧
        IsFirstFault (fun before => faulty (entry :: before)) rest error := by
  constructor
  · rintro ⟨before, found, after, split, fault, soundBefore⟩
    cases before with
    | nil =>
        obtain ⟨rfl, rfl⟩ := List.cons.inj split
        exact .inl fault
    | cons first before =>
        obtain ⟨rfl, rfl⟩ := List.cons.inj split
        refine .inr ⟨soundBefore [] entry before rfl, before, found, after, rfl, fault, ?_⟩
        rintro earlier other later rfl
        exact soundBefore (entry :: earlier) other later rfl
  · rintro (fault | ⟨sound, before, found, after, rfl, fault, soundBefore⟩)
    · refine ⟨[], entry, rest, rfl, fault, fun earlier other later split => ?_⟩
      cases earlier <;> exact nomatch split
    · refine ⟨entry :: before, found, after, rfl, fault, fun earlier other later split => ?_⟩
      cases earlier with
      | nil =>
          obtain ⟨rfl, rfl⟩ := List.cons.inj split
          exact sound
      | cons first earlier =>
          obtain ⟨rfl, rfl⟩ := List.cons.inj split
          exact soundBefore earlier other later rfl

/-- The same behind entries that were looked at earlier. -/
theorem behind_cons_iff {earlier : List α} {entry : α} {rest : List α} :
    IsFirstFault (fun before => faulty (earlier ++ before)) (entry :: rest) error ↔
      faulty earlier entry error ∨ (∀ other, ¬ faulty earlier entry other) ∧
        IsFirstFault (fun before => faulty (earlier ++ [entry] ++ before)) rest error := by
  rw [cons_iff, List.append_nil]
  simp only [List.append_assoc, List.singleton_append]

/-- If an entry is sound or not whatever stands before it, all those before the fault are sound. -/
theorem iff_of_sound {sound : α → Prop}
    (sound_iff : ∀ earlier entry, (∀ other, ¬ faulty earlier entry other) ↔ sound entry)
    {entries : List α} :
    IsFirstFault faulty entries error ↔ ∃ before entry after,
      entries = before ++ entry :: after ∧ faulty before entry error ∧
        ∀ earlier ∈ before, sound earlier := by
  have everySound (before : List α) :
      (∀ earlier other later, before = earlier ++ other :: later →
        ∀ otherError, ¬ faulty earlier other otherError) ↔ ∀ earlier ∈ before, sound earlier := by
    constructor
    · intro soundBefore other member
      obtain ⟨earlier, later, split⟩ := List.append_of_mem member
      exact (sound_iff earlier other).mp (soundBefore earlier other later split)
    · rintro soundBefore earlier other later rfl
      exact (sound_iff earlier other).mpr (soundBefore other (by simp))
  simp only [IsFirstFault, everySound]

theorem exists_fault {entries : List α} (first : IsFirstFault faulty entries error) :
    ∃ before, ∃ entry ∈ entries, faulty before entry error := by
  obtain ⟨before, entry, after, rfl, fault, -⟩ := first
  exact ⟨before, entry, by simp, fault⟩

end IsFirstFault

theorem isFirstReported_cons_iff {stage : ε → Prop} {rest : List (ε → Prop)} {error : ε} :
    IsFirstReported (stage :: rest) error ↔
      stage error ∨ (∀ other, ¬ stage other) ∧ IsFirstReported rest error :=
  IsFirstFault.cons_iff

namespace Outcome

/-- If every fault is reported, and there is an outcome when there is none, then exactly the faults
are reported. -/
theorem eq_error_iff_of_reports {outcome : Except ε α} {fault : ε → Prop}
    (reports : ∀ error, fault error → outcome = .error error)
    (succeeds : (∀ error, ¬ fault error) → ∃ value, outcome = .ok value) (error : ε) :
    outcome = .error error ↔ fault error := by
  refine ⟨fun fails => ?_, reports error⟩
  by_cases sound : ∀ other, ¬ fault other
  · obtain ⟨value, succeeded⟩ := succeeds sound
    exact nomatch succeeded.symm.trans fails
  · simp only [not_forall, not_not] at sound
    obtain ⟨other, fault⟩ := sound
    obtain rfl : other = error := Except.error.inj ((reports other fault).symm.trans fails)
    exact fault

theorem bind_ok_eq_error_iff {first : Except ε α} {value : α} {next : α → Except ε β} {error : ε}
    (succeeded : first = .ok value) :
    (first >>= next) = .error error ↔ next value = .error error := by
  rw [succeeded]
  exact Iff.rfl

theorem bind_pure_eq_error_iff {outcome : Except ε α} {convert : α → β} {error : ε} :
    (outcome >>= fun value => pure (convert value)) = .error error ↔ outcome = .error error := by
  cases outcome with
  | error found => exact ⟨fun fails => congrArg _ (Except.error.inj fails),
      fun fails => congrArg _ (Except.error.inj fails)⟩
  | ok value => exact ⟨nofun, nofun⟩

/-- A sequence of two computations reports what the first one reports, or else what the second one
does. -/
theorem bind_eq_error_iff {first : Except ε α} {next : α → Except ε β} {stage : ε → Prop}
    {rest : List (ε → Prop)} (firstReports : ∀ error, first = .error error ↔ stage error)
    (restReports : ∀ value, first = .ok value →
      ∀ error, next value = .error error ↔ IsFirstReported rest error) (error : ε) :
    (first >>= next) = .error error ↔ IsFirstReported (stage :: rest) error := by
  refine eq_error_iff_of_reports (fun error fault => ?_) (fun sound => ?_) error
  · rcases isFirstReported_cons_iff.mp fault with fault | ⟨sound, fault⟩
    · rw [(firstReports error).mpr fault]
      rfl
    · cases outcome : first with
      | error found => exact absurd ((firstReports found).mp outcome) (sound found)
      | ok value => exact (restReports value outcome error).mpr fault
  · simp only [isFirstReported_cons_iff, not_or, not_and] at sound
    cases outcome : first with
    | error found => exact absurd ((firstReports found).mp outcome) (sound found).1
    | ok value =>
        cases ending : next value with
        | error found =>
            have fault := (restReports value outcome found).mp ending
            exact absurd fault ((sound found).2 fun other => (sound other).1)
        | ok result => exact ⟨result, ending⟩

end Outcome

/-! ## Loops -/

/-- Exactly the keys of some earlier entries were seen. -/
def Tracks {κ : Type} (key : α → κ) (seen : List κ) (earlier : List α) : Prop :=
  ∀ value, value ∈ seen ↔ value ∈ earlier.map key

section Tracks

variable {κ : Type} {key : α → κ} {seen : List κ} {earlier : List α}

theorem Tracks.nil : Tracks key [] [] := fun _ => Iff.rfl

theorem mem_map_concat {value : κ} {entry : α} :
    value ∈ (earlier ++ [entry]).map key ↔ value ∈ earlier.map key ∨ value = key entry := by
  rw [List.map_append, List.mem_append, List.map_singleton, List.mem_singleton]

theorem Tracks.concat (tracked : Tracks key seen earlier) (entry : α) :
    Tracks key (key entry :: seen) (earlier ++ [entry]) := by
  intro value
  rw [mem_map_concat, ← tracked, List.mem_cons, or_comm]

theorem Tracks.concat_of_mem (tracked : Tracks key seen earlier) {entry : α}
    (again : key entry ∈ seen) : Tracks key seen (earlier ++ [entry]) := by
  intro value
  rw [mem_map_concat, ← tracked, or_iff_left_of_imp]
  rintro rfl
  exact again

end Tracks

/-- What one step of a loop over a list must do.  The state of the loop keeps track of the entries
before; at a fault it stops, and otherwise it goes on behind the entry. -/
structure StopsAtFaults (run : σ → List α → Except ε β) (tracks : σ → List α → Prop)
    (faulty : List α → α → ε → Prop) : Prop where
  ends : ∀ {state earlier}, tracks state earlier → ∃ value, run state [] = .ok value
  stops : ∀ {state earlier entry rest error}, tracks state earlier → faulty earlier entry error →
    run state (entry :: rest) = .error error
  continues : ∀ {state earlier entry rest}, tracks state earlier →
    (∀ error, ¬ faulty earlier entry error) → ∃ next, tracks next (earlier ++ [entry]) ∧
      ∀ error, run state (entry :: rest) = .error error ↔ run next rest = .error error

namespace StopsAtFaults

variable {run : σ → List α → Except ε β} {tracks : σ → List α → Prop}
  {faulty : List α → α → ε → Prop}

theorem eq_error_iff_behind (loop : StopsAtFaults run tracks faulty) {state : σ}
    {earlier entries : List α} (tracked : tracks state earlier) (error : ε) :
    run state entries = .error error ↔
      IsFirstFault (fun before => faulty (earlier ++ before)) entries error := by
  -- What was looked at grows with the state, so both are arbitrary in the induction.
  induction entries generalizing state earlier with
  | nil =>
      obtain ⟨value, ended⟩ := loop.ends tracked
      constructor
      · intro fails
        exact nomatch ended.symm.trans fails
      · intro fault
        exact absurd fault IsFirstFault.not_nil
  | cons entry rest ih =>
      rw [IsFirstFault.behind_cons_iff]
      constructor
      · intro fails
        by_cases sound : ∀ other, ¬ faulty earlier entry other
        · obtain ⟨next, nextTracked, same⟩ := loop.continues tracked sound
          exact .inr ⟨sound, (ih nextTracked).mp ((same error).mp fails)⟩
        · simp only [not_forall, not_not] at sound
          obtain ⟨other, fault⟩ := sound
          obtain rfl : other = error :=
            Except.error.inj ((loop.stops tracked fault).symm.trans fails)
          exact .inl fault
      · rintro (fault | ⟨sound, fault⟩)
        · exact loop.stops tracked fault
        · obtain ⟨next, nextTracked, same⟩ := loop.continues tracked sound
          exact (same error).mpr ((ih nextTracked).mpr fault)

/-- A loop that stops at faults reports the first fault. -/
theorem eq_error_iff (loop : StopsAtFaults run tracks faulty) {entries : List α} (state : σ)
    (tracked : tracks state []) (error : ε) :
    run state entries = .error error ↔ IsFirstFault faulty entries error :=
  loop.eq_error_iff_behind tracked error

end StopsAtFaults

namespace Outcome

theorem stopsAtFaults_mapM (convert : α → Except ε β) :
    StopsAtFaults (fun (_ : Unit) items => items.mapM convert) (fun _ _ => True)
      fun _ item error => convert item = .error error where
  ends _ := ⟨[], rfl⟩
  stops {_ _ item rest error} _ fails := by
    rw [List.mapM_cons, fails]
    rfl
  continues {_ _ item rest} _ succeeds := by
    refine ⟨(), trivial, fun error => ?_⟩
    cases converted : convert item with
    | error found => exact absurd converted (succeeds found)
    | ok result => rw [List.mapM_cons, bind_ok_eq_error_iff converted, bind_pure_eq_error_iff]

theorem mapM_eq_error_iff {convert : α → Except ε β} {items : List α} {error : ε} :
    items.mapM convert = .error error ↔
      IsFirstFault (fun _ item error => convert item = .error error) items error :=
  (stopsAtFaults_mapM convert).eq_error_iff () trivial error

theorem mapM_eq_ok_iff {convert : α → Except ε β} {items : List α} {results : List β} :
    items.mapM convert = .ok results ↔
      List.Forall₂ (fun item result => convert item = .ok result) items results := by
  induction items generalizing results with
  | nil => simp [pure, Except.pure, eq_comm]
  | cons item rest ih =>
      rw [List.mapM_cons, bind_eq_ok_iff, List.forall₂_cons_left_iff]
      simp only [bind_eq_ok_iff, ih]
      constructor
      · rintro ⟨result, converted, others, each, both⟩
        exact ⟨result, others, converted, each, (Except.ok.inj both).symm⟩
      · rintro ⟨result, others, converted, each, rfl⟩
        exact ⟨result, converted, others, each, rfl⟩

theorem exists_forall₂_iff {gives : α → β → Prop} {items : List α} :
    (∃ results, List.Forall₂ gives items results) ↔
      ∀ item ∈ items, ∃ result, gives item result := by
  induction items with
  | nil => exact ⟨fun _ _ member => (nomatch member), fun _ => ⟨[], .nil⟩⟩
  | cons item rest ih =>
      rw [List.forall_mem_cons, ← ih]
      constructor
      · rintro ⟨_, _ | ⟨given, each⟩⟩
        exact ⟨⟨_, given⟩, _, each⟩
      · rintro ⟨⟨result, given⟩, results, each⟩
        exact ⟨result :: results, .cons given each⟩

theorem exists_gives_of_mem {gives : α → β → Prop} {items : List α} {results : List β}
    (each : List.Forall₂ gives items results) {result : β} (member : result ∈ results) :
    ∃ item ∈ items, gives item result := by
  induction each with
  | nil => exact nomatch member
  | @cons item first items results given _ ih =>
      rcases List.mem_cons.mp member with rfl | later
      · exact ⟨item, List.mem_cons_self, given⟩
      · obtain ⟨other, otherMember, otherGiven⟩ := ih later
        exact ⟨other, List.mem_cons_of_mem item otherMember, otherGiven⟩

end Outcome

end OperatorSource
