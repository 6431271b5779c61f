import SlateMark.Convert.Marks
import SlateMark.Proofs.CommonMark.Encoding

/-!
Runs of text as inline nodes. The eight sets of marks give five shapes of nodes, since the code mark
hides the others; these shapes and no others collapse to a run again. On runs whose code mark has no
other beside it, wrapping and collapsing undo each other.
-/
namespace SlateMark

open Slate (Marks)

/-- The marks that are left of these after a round trip. -/
def Slate.Marks.canonical (m : Marks) : Marks := if m.code then ⟨false, false, true⟩ else m

/-- The code mark stands alone or not at all. -/
def Slate.Marks.Unmixed (m : Marks) : Prop := m = ⟨false, false, true⟩ ∨ m.code = false

theorem Slate.Marks.unmixed_iff {m : Marks} : m.Unmixed ↔ m.canonical = m := by
  obtain ⟨bold, italic, code⟩ := m
  cases code with
  | false => exact iff_of_true (.inr rfl) rfl
  | true =>
    rw [Unmixed, canonical, if_pos rfl]
    constructor
    · rintro (h | h)
      · exact h.symm
      · cases h
    · intro h
      exact .inl h.symm

namespace CommonMark.Node

/-- The inline node that a run of text becomes. -/
def ofRun (s : String) (marks : Marks) : Node :=
  if marks.code then code s
  else
    let bold := if marks.bold then strong [text s] else text s
    if marks.italic then emph [bold] else bold

theorem rawRun_eq_toRaw (ns s : String) (marks : Marks) :
    rawRun ns s marks = (ofRun s marks).toRaw ns := by
  obtain ⟨bold, italic, code⟩ := marks
  cases bold <;> cases italic <;> cases code <;> rfl

theorem ofRun_inRange (s : String) (marks : Marks) :
    ∀ m ∈ (ofRun s marks).preorder, m.ValuesInRange := by
  obtain ⟨bold, italic, code⟩ := marks
  cases bold <;> cases italic <;> cases code <;>
    simp [ofRun, preorder, preorderAll, ValuesInRange]

theorem ofRaw_rawRun (ns s : String) (marks : Marks) :
    ofRaw ns (rawRun ns s marks) = .ok (ofRun s marks) := by
  rw [rawRun_eq_toRaw]
  exact ofRaw_toRaw_of_inRange ns _ (ofRun_inRange s marks)

theorem collapse_ofRun (s : String) (marks : Marks) :
    (ofRun s marks).collapse = .ok (s, marks.canonical) := by
  obtain ⟨bold, italic, code⟩ := marks
  cases bold <;> cases italic <;> cases code <;> rfl

/-- A node either is the node of the run it collapses to, or is not supported. -/
theorem collapse_cases (n : Node) :
    (∃ s marks, n.collapse = .ok (s, marks) ∧ n = ofRun s marks) ∨
      ∃ e cause, n.collapse = .error e ∧ e.fault = .unsupported cause := by
  unfold collapse
  split
  case h_1 s => exact .inl ⟨s, ⟨false, false, true⟩, rfl, rfl⟩
  case h_2 s => exact .inl ⟨s, .none, rfl, rfl⟩
  case h_3 s => exact .inl ⟨s, ⟨true, false, false⟩, rfl, rfl⟩
  case h_6 s => exact .inl ⟨s, ⟨false, true, false⟩, rfl, rfl⟩
  case h_7 s => exact .inl ⟨s, ⟨true, true, false⟩, rfl, rfl⟩
  all_goals exact .inr ⟨_, _, rfl, rfl⟩

theorem collapse_eq_ok_iff {n : Node} {s : String} {marks : Marks} :
    n.collapse = .ok (s, marks) ↔ marks.Unmixed ∧ n = ofRun s marks := by
  constructor
  · intro h
    rcases collapse_cases n with ⟨s', marks', hok, rfl⟩ | ⟨e, cause, herror, -⟩
    · obtain ⟨rfl, rfl⟩ := Prod.mk.inj (Except.ok.inj (hok.symm.trans h))
      have hcanonical := Except.ok.inj ((collapse_ofRun s' marks').symm.trans h)
      exact ⟨Slate.Marks.unmixed_iff.mpr (Prod.mk.inj hcanonical).2, rfl⟩
    · cases herror.symm.trans h
  · rintro ⟨hunmixed, rfl⟩
    rw [collapse_ofRun, Slate.Marks.unmixed_iff.mp hunmixed]

/-- A run comes back from its raw node, but for the marks that the code mark hides. A node collapses
to a run exactly if it is read from the raw node of that run and the run's code mark has no other
beside it; there is no second such run, and without one the node is not supported. -/
theorem collapse_inverts_rawRun (ns : String) :
    (∀ s marks, ∃ n, ofRaw ns (rawRun ns s marks) = .ok n ∧
        n.collapse = .ok (s, marks.canonical)) ∧
      ∀ n : Node,
        (∀ s marks, n.collapse = .ok (s, marks) ↔
          marks.Unmixed ∧ ofRaw ns (rawRun ns s marks) = .ok n) ∧
        ((∃ run, n.collapse = .ok run) ↔ ∃! run : String × Marks,
          run.2.Unmixed ∧ ofRaw ns (rawRun ns run.1 run.2) = .ok n) ∧
        ((¬ ∃ run : String × Marks,
            run.2.Unmixed ∧ ofRaw ns (rawRun ns run.1 run.2) = .ok n) →
          ∃ e cause, n.collapse = .error e ∧ e.fault = .unsupported cause) := by
  have hiff : ∀ (n : Node) (s : String) (marks : Marks), n.collapse = .ok (s, marks) ↔
      marks.Unmixed ∧ ofRaw ns (rawRun ns s marks) = .ok n := by
    intro n s marks
    rw [collapse_eq_ok_iff, ofRaw_rawRun, Except.ok.injEq, @eq_comm Node n]
  refine ⟨fun s marks => ⟨_, ofRaw_rawRun ns s marks, collapse_ofRun s marks⟩, fun n => ?_⟩
  refine ⟨hiff n, ⟨?_, ?_⟩, ?_⟩
  · rintro ⟨run, hrun⟩
    refine ⟨run, (hiff n run.1 run.2).mp hrun, fun other hother => ?_⟩
    have hcollapse := (hiff n other.1 other.2).mpr hother
    exact Except.ok.inj (hcollapse.symm.trans hrun)
  · rintro ⟨run, hrun, -⟩
    exact ⟨run, (hiff n run.1 run.2).mpr hrun⟩
  · intro hnone
    rcases collapse_cases n with ⟨s, marks, hok, -⟩ | hunsupported
    · exact absurd ⟨(s, marks), (hiff n s marks).mp hok⟩ hnone
    · exact hunsupported

end CommonMark.Node

end SlateMark
