import OperatorSource.Log.Event

/-!
# Computations that report what they do

A traced computation ends in a value or an error, and lists the events that it raised on the way,
in order. The events of a failed computation are kept: what was reported before the failure stays
reported. In a sequence the events of the first computation come before those of the second, and
the second does not run when the first fails.
-/

namespace OperatorSource

/-- The events that a computation raised and how it ended. -/
structure Traced (ε α : Type) where
  events : List Log.Event
  result : Except ε α

namespace Traced

variable {ε φ α β : Type}

def report (event : Log.Event) : Traced ε Unit := ⟨[event], .ok ()⟩

/-- A computation that raises no event. -/
def ofExcept (result : Except ε α) : Traced ε α := ⟨[], result⟩

/-- A computation that fails without an event. -/
def fail (error : ε) : Traced ε α := ⟨[], .error error⟩

/-- Runs one computation and, when it succeeds, a second one on its value. -/
def andThen (first : Traced ε α) (next : α → Traced ε β) : Traced ε β :=
  match first.result with
  | .error error => ⟨first.events, .error error⟩
  | .ok value => ⟨first.events ++ (next value).events, (next value).result⟩

instance : Monad (Traced ε) where
  pure value := ⟨[], .ok value⟩
  bind := andThen

/-- The same computation with its error reworded. -/
def mapError (reword : ε → φ) (computation : Traced ε α) : Traced φ α :=
  ⟨computation.events, computation.result.mapError reword⟩

@[simp] theorem events_pure (value : α) : (pure value : Traced ε α).events = [] := rfl

@[simp] theorem result_pure (value : α) : (pure value : Traced ε α).result = .ok value := rfl

@[simp] theorem events_report (event : Log.Event) :
    (report event : Traced ε Unit).events = [event] := rfl

@[simp] theorem result_report (event : Log.Event) :
    (report event : Traced ε Unit).result = .ok () := rfl

@[simp] theorem events_ofExcept (result : Except ε α) : (ofExcept result).events = [] := rfl

@[simp] theorem result_ofExcept (result : Except ε α) : (ofExcept result).result = result := rfl

@[simp] theorem events_fail (error : ε) : (fail error : Traced ε α).events = [] := rfl

@[simp] theorem result_fail (error : ε) : (fail error : Traced ε α).result = .error error := rfl

theorem ofExcept_ok_bind (value : α) (next : α → Traced ε β) :
    (ofExcept (.ok value) >>= next) = next value := rfl

theorem bind_of_ok {first : Traced ε α} {value : α} (succeeds : first.result = .ok value)
    (next : α → Traced ε β) :
    first >>= next = ⟨first.events ++ (next value).events, (next value).result⟩ := by
  simp only [bind, andThen, succeeds]

theorem bind_of_error {first : Traced ε α} {error : ε} (fails : first.result = .error error)
    (next : α → Traced ε β) : first >>= next = ⟨first.events, .error error⟩ := by
  simp only [bind, andThen, fails]

theorem result_bind (first : Traced ε α) (next : α → Traced ε β) :
    (first >>= next).result = first.result.bind fun value => (next value).result := by
  cases outcome : first.result with
  | error error => rw [bind_of_error outcome]; rfl
  | ok value => rw [bind_of_ok outcome]; rfl

/-- The events of a sequence are those of the first computation and, if it succeeds, those of the
second. -/
theorem events_bind (first : Traced ε α) (next : α → Traced ε β) :
    (first >>= next).events = first.events ++ match first.result with
      | .error _ => []
      | .ok value => (next value).events := by
  cases outcome : first.result with
  | error error => rw [bind_of_error outcome, List.append_nil]
  | ok value => rw [bind_of_ok outcome]

/-- A sequence succeeds when both computations do, the second on the value of the first. -/
theorem result_bind_eq_ok_iff {first : Traced ε α} {next : α → Traced ε β} {value : β} :
    (first >>= next).result = .ok value ↔
      ∃ middle, first.result = .ok middle ∧ (next middle).result = .ok value := by
  cases outcome : first.result with
  | error error => simp [bind_of_error outcome]
  | ok middle => simp [bind_of_ok outcome]

end Traced

end OperatorSource
