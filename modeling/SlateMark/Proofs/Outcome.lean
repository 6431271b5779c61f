import Mathlib.Data.List.Forall2
import SlateMark.Log

/-!
Two computations side by side. They end alike if both succeed, with related values, or both fail,
with related errors; computations that report have to report the same besides. What is alike stays
alike when the computations go on in ways that are alike.
-/
namespace SlateMark

variable {ε ε' α α' β β' : Type} {E : ε → ε' → Prop} {R : α → α' → Prop} {S : β → β' → Prop}

inductive SameOutcome (E : ε → ε' → Prop) (R : α → α' → Prop) : Except ε α → Except ε' α' → Prop
  | ok {a : α} {a' : α'} (h : R a a') : SameOutcome E R (.ok a) (.ok a')
  | error {e : ε} {e' : ε'} (h : E e e') : SameOutcome E R (.error e) (.error e')

namespace SameOutcome

variable {outcome : Except ε α} {outcome' : Except ε' α'}

theorem bind {next : α → Except ε β} {next' : α' → Except ε' β'}
    (h : SameOutcome E R outcome outcome')
    (hnext : ∀ a a', R a a' → SameOutcome E S (next a) (next' a')) :
    SameOutcome E S (outcome >>= next) (outcome' >>= next') := by
  cases h with
  | ok ha => exact hnext _ _ ha
  | error he => exact .error he

theorem mono {E' : ε → ε' → Prop} {R' : α → α' → Prop} (h : SameOutcome E R outcome outcome')
    (hE : ∀ e e', E e e' → E' e e') (hR : ∀ a a', R a a' → R' a a') :
    SameOutcome E' R' outcome outcome' := by
  cases h with
  | ok ha => exact .ok (hR _ _ ha)
  | error he => exact .error (hE _ _ he)

theorem map {f : α → β} {f' : α' → β'} (h : SameOutcome E R outcome outcome')
    (hf : ∀ a a', R a a' → S (f a) (f' a')) :
    SameOutcome E S (outcome.map f) (outcome'.map f') := by
  cases h with
  | ok ha => exact .ok (hf _ _ ha)
  | error he => exact .error he

theorem mapError {δ δ' : Type} {D : δ → δ' → Prop} {f : ε → δ} {f' : ε' → δ'}
    (h : SameOutcome E R outcome outcome') (hf : ∀ e e', E e e' → D (f e) (f' e')) :
    SameOutcome D R (outcome.mapError f) (outcome'.mapError f') := by
  cases h with
  | ok ha => exact .ok ha
  | error he => exact .error (hf _ _ he)

end SameOutcome

/-- Both runs report the same and end alike. -/
structure Logged.Alike (E : ε → ε' → Prop) (R : α → α' → Prop) (run : Logged ε α)
    (run' : Logged ε' α') : Prop where
  events_eq : run'.events = run.events
  result : SameOutcome E R run.result run'.result

namespace Logged.Alike

variable {run : Logged ε α} {run' : Logged ε' α'}

theorem pure {a : α} {a' : α'} (h : R a a') :
    Alike E R (Pure.pure a : Logged ε α) (Pure.pure a' : Logged ε' α') := ⟨rfl, .ok h⟩

theorem fail {e : ε} {e' : ε'} (h : E e e') :
    Alike E R (Logged.fail e : Logged ε α) (Logged.fail e' : Logged ε' α') := ⟨rfl, .error h⟩

theorem report (event : Event) :
    Alike E (fun _ _ => True) (Logged.report event : Logged ε Unit)
      (Logged.report event : Logged ε' Unit) := ⟨rfl, .ok trivial⟩

theorem bind {next : α → Logged ε β} {next' : α' → Logged ε' β'} (h : Alike E R run run')
    (hnext : ∀ a a', R a a' → Alike E S (next a) (next' a')) :
    Alike E S (run >>= next) (run' >>= next') := by
  obtain ⟨reported, result⟩ := run
  obtain ⟨reported', result'⟩ := run'
  obtain ⟨hreported, hresult⟩ := h
  obtain rfl : reported' = reported := hreported
  cases hresult with
  | error he => exact ⟨rfl, .error he⟩
  | ok ha =>
    obtain ⟨hmore, hend⟩ := hnext _ _ ha
    exact ⟨congrArg (reported' ++ ·) hmore, hend⟩

theorem mono {R' : α → α' → Prop} (h : Alike E R run run') (hR : ∀ a a', R a a' → R' a a') :
    Alike E R' run run' := ⟨h.events_eq, h.result.mono (fun _ _ he => he) hR⟩

theorem map {f : α → β} {f' : α' → β'} (h : Alike E R run run')
    (hf : ∀ a a', R a a' → S (f a) (f' a')) : Alike E S (f <$> run) (f' <$> run') := by
  rw [← bind_pure_comp, ← bind_pure_comp]
  exact h.bind fun a a' ha => .pure (hf a a' ha)

end Logged.Alike

end SlateMark
