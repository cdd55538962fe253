import Mathlib.Data.List.Basic

/-!
# Outcomes of computations that may fail

What a sequence of steps gives when all of them succeed.  Which error a failure gives is left open
here, so these facts serve where only the success matters.
-/

namespace OperatorSource.Outcome

variable {ε α β γ : Type}

theorem toOption_bind (first : Except ε α) (next : α → Except ε β) :
    (first >>= next).toOption = first.toOption.bind fun value => (next value).toOption := by
  cases first <;> rfl

theorem toOption_eq_some_iff {outcome : Except ε α} {value : α} :
    outcome.toOption = some value ↔ outcome = .ok value := by
  cases outcome with
  | error error => exact ⟨nofun, nofun⟩
  | ok other => exact ⟨fun gives => congrArg Except.ok (Option.some.inj gives), fun same =>
      congrArg Except.toOption same⟩

theorem eq_ok_of_toOption {outcome : Except ε α} {value : α}
    (gives : outcome.toOption = some value) : outcome = .ok value :=
  toOption_eq_some_iff.mp gives

theorem bind_eq_ok_iff {first : Except ε α} {next : α → Except ε β} {value : β} :
    (first >>= next) = .ok value ↔ ∃ middle, first = .ok middle ∧ next middle = .ok value := by
  cases first <;> simp [bind, Except.bind]

theorem mapError_eq_ok_iff {φ : Type} {reword : ε → φ} {outcome : Except ε α} {value : α} :
    outcome.mapError reword = .ok value ↔ outcome = .ok value := by
  cases outcome <;> simp [Except.mapError]

theorem mapM_map_eq_ok {convert : β → Except ε γ} {spell : α → β} {meaning : α → γ}
    (converts : ∀ item, convert (spell item) = .ok (meaning item)) (items : List α) :
    (items.map spell).mapM convert = .ok (items.map meaning) := by
  induction items with
  | nil => rfl
  | cons item rest ih => rw [List.map_cons, List.mapM_cons, converts, ih]; rfl

end OperatorSource.Outcome
