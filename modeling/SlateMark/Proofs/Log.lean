import SlateMark.Log

/-!
The results of computations that report, and what they report. What was reported never changes a
result, and a list of checks passes if and only if each of them does. What it reports is what the
checks report up to the first that fails.
-/
namespace SlateMark.Logged

variable {ε α β : Type}

theorem result_bind (run : Logged ε α) (next : α → Logged ε β) :
    (run >>= next).result = run.result >>= fun a => (next a).result := by
  rcases run with ⟨events, _ | a⟩ <;> rfl

theorem result_map (f : α → β) (run : Logged ε α) : (f <$> run).result = run.result.map f := by
  rcases run with ⟨events, _ | a⟩ <;> rfl

theorem result_map_eq_ok {f : α → β} {run : Logged ε α} {b : β} :
    (f <$> run).result = .ok b ↔ ∃ a, run.result = .ok a ∧ f a = b := by
  rw [result_map]
  cases run.result <;> simp [Except.map]

theorem result_bind_of_ok {run : Logged ε α} {a : α} (h : run.result = .ok a)
    (next : α → Logged ε β) : (run >>= next).result = (next a).result := by
  rw [result_bind, h]
  rfl

theorem result_bind_of_error {run : Logged ε α} {e : ε} (h : run.result = .error e)
    (next : α → Logged ε β) : (run >>= next).result = .error e := by
  rw [result_bind, h]
  rfl

/-- A run of two parts succeeds if both do. -/
theorem result_bind_eq_ok {run : Logged ε α} {next : α → Logged ε β} {b : β} :
    (run >>= next).result = .ok b ↔ ∃ a, run.result = .ok a ∧ (next a).result = .ok b := by
  rw [result_bind]
  cases run.result with
  | error e => simp [bind, Except.bind]
  | ok a => simp [bind, Except.bind]

/-- A run of two parts fails if the first does, or the second after it. -/
theorem result_bind_eq_error {run : Logged ε α} {next : α → Logged ε β} {e : ε} :
    (run >>= next).result = .error e ↔
      run.result = .error e ∨ ∃ a, run.result = .ok a ∧ (next a).result = .error e := by
  rw [result_bind]
  cases run.result with
  | error e' => simp [bind, Except.bind]
  | ok a => simp [bind, Except.bind]

theorem result_mapError_eq_ok {δ : Type} {f : ε → δ} {run : Logged ε α} {a : α} :
    (run.mapError f).result = .ok a ↔ run.result = .ok a := by
  rw [mapError]
  cases run.result with
  | error e => exact iff_of_false nofun nofun
  | ok a' =>
    change Except.ok a' = .ok a ↔ _
    simp

theorem result_forM_eq_ok {l : List α} {check : α → Logged ε Unit} :
    (forM l check).result = .ok () ↔ ∀ a ∈ l, (check a).result = .ok () := by
  induction l with
  | nil => simp [List.forM_nil]
  | cons a rest ih =>
    rw [List.forM_cons, result_bind, List.forall_mem_cons, ← ih]
    cases (check a).result with
    | error e => simp [bind, Except.bind]
    | ok _ => simp [bind, Except.bind]

/-- A list of checks fails with the error of the first check that fails. -/
theorem result_forM_eq_error {l : List α} {check : α → Logged ε Unit} {e : ε} :
    (forM l check).result = .error e ↔
      ∃ front a back, l = front ++ a :: back ∧ (∀ b ∈ front, (check b).result = .ok ()) ∧
        (check a).result = .error e := by
  induction l with
  | nil => simp [List.forM_nil]
  | cons a rest ih =>
    rw [List.forM_cons, result_bind_eq_error]
    constructor
    · rintro (ha | ⟨_, ha, hrest⟩)
      · exact ⟨[], a, rest, rfl, by simp, ha⟩
      · obtain ⟨front, b, back, rfl, hfront, hb⟩ := ih.mp hrest
        exact ⟨a :: front, b, back, rfl, List.forall_mem_cons.mpr ⟨ha, hfront⟩, hb⟩
    · rintro ⟨front, b, back, hsplit, hfront, hb⟩
      cases front with
      | nil =>
        obtain ⟨rfl, -⟩ := List.cons.inj hsplit
        exact .inl hb
      | cons c front =>
        obtain ⟨rfl, hrest⟩ := List.cons.inj hsplit
        obtain ⟨ha, hfront⟩ := List.forall_mem_cons.mp hfront
        exact .inr ⟨(), ha, ih.mpr ⟨front, b, back, hrest, hfront, hb⟩⟩

theorem events_bind_of_ok {run : Logged ε α} {a : α} (h : run.result = .ok a)
    (next : α → Logged ε β) : (run >>= next).events = run.events ++ (next a).events := by
  obtain ⟨events, result⟩ := run
  obtain rfl : result = .ok a := h
  rfl

theorem events_bind_of_error {run : Logged ε α} {e : ε} (h : run.result = .error e)
    (next : α → Logged ε β) : (run >>= next).events = run.events := by
  obtain ⟨events, result⟩ := run
  obtain rfl : result = .error e := h
  rfl

/-- What follows without reporting anything does not show. -/
theorem events_bind_of_silent (run : Logged ε α) {next : α → Logged ε β}
    (h : ∀ a, (next a).events = []) : (run >>= next).events = run.events := by
  cases hrun : run.result with
  | error e => exact events_bind_of_error hrun next
  | ok a => rw [events_bind_of_ok hrun, h a, List.append_nil]

/-- Checks that pass report in turn, and those behind them follow. -/
theorem events_forM_append {front : List α} {check : α → Logged ε Unit}
    (h : ∀ a ∈ front, (check a).result = .ok ()) (back : List α) :
    (forM (front ++ back) check).events =
      (front.flatMap fun a => (check a).events) ++ (forM back check).events := by
  induction front with
  | nil => rfl
  | cons a rest ih =>
    obtain ⟨ha, hrest⟩ := List.forall_mem_cons.mp h
    rw [List.cons_append, List.forM_cons, events_bind_of_ok ha, ih hrest, List.flatMap_cons,
      List.append_assoc]

/-- Behind a check that fails nothing is reported. -/
theorem events_forM_cons_of_error {a : α} {check : α → Logged ε Unit} {e : ε}
    (h : (check a).result = .error e) (rest : List α) :
    (forM (a :: rest) check).events = (check a).events := by
  rw [List.forM_cons, events_bind_of_error h]

end SlateMark.Logged
