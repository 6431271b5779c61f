import SlateMark.Proofs.Log

/-!
Computations that fail with certain errors only. What is said of the parts of a computation holds of
the whole: an error of the whole is an error of the part that failed first.
-/
namespace SlateMark

/-- If there is an error it is one of these. -/
def FailsWith {ε α : Type} (P : ε → Prop) (outcome : Except ε α) : Prop :=
  ∀ e, outcome = .error e → P e

namespace FailsWith

variable {ε δ α β : Type} {P : ε → Prop} {outcome : Except ε α}

theorem ok (a : α) : FailsWith P (.ok a) := by
  intro e he
  cases he

theorem error {e : ε} (h : P e) : FailsWith P (.error e : Except ε α) := by
  intro e' he
  obtain rfl := Except.error.inj he
  exact h

theorem bind {next : α → Except ε β} (h : FailsWith P outcome)
    (hnext : ∀ a, FailsWith P (next a)) : FailsWith P (outcome >>= next) := by
  cases outcome with
  | error e => exact error (h e rfl)
  | ok a => exact hnext a

theorem map (h : FailsWith P outcome) (f : α → β) : FailsWith P (outcome.map f) := by
  cases outcome with
  | error e => exact error (h e rfl)
  | ok a => exact ok (f a)

theorem mapError {Q : δ → Prop} {f : ε → δ} (hf : ∀ e, Q (f e)) (outcome : Except ε α) :
    FailsWith Q (outcome.mapError f) := by
  cases outcome with
  | error e => exact error (hf e)
  | ok a => exact ok a

/-- What was reported does not matter. -/
theorem logged {run : Logged ε α} {next : α → Logged ε β} (hrun : FailsWith P run.result)
    (hnext : ∀ a, FailsWith P (next a).result) : FailsWith P (run >>= next).result := by
  rw [Logged.result_bind]
  exact hrun.bind hnext

end FailsWith

section Except

variable {ε δ α β : Type} {outcome : Except ε α}

theorem except_bind_eq_ok {next : α → Except ε β} {b : β} :
    outcome >>= next = .ok b ↔ ∃ a, outcome = .ok a ∧ next a = .ok b := by
  cases outcome with
  | error e => simp [bind, Except.bind]
  | ok a => simp [bind, Except.bind]

theorem except_map_eq_ok {f : α → β} {b : β} :
    outcome.map f = .ok b ↔ ∃ a, outcome = .ok a ∧ f a = b := by
  cases outcome <;> simp [Except.map]

theorem except_map_eq_error {f : α → β} {e : ε} :
    outcome.map f = .error e ↔ outcome = .error e := by
  cases outcome <;> simp [Except.map]

theorem except_mapError_eq_ok {f : ε → δ} {a : α} :
    outcome.mapError f = .ok a ↔ outcome = .ok a := by
  cases outcome with
  | error e => exact iff_of_false nofun nofun
  | ok a' =>
    change Except.ok a' = .ok a ↔ _
    simp

end Except

end SlateMark
