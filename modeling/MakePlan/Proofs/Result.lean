/-!
# Results in sequence

When a computation that may fail, followed by another, succeeds or fails.
-/

namespace MakePlan.Result

set_option autoImplicit false

variable {Cause Other α β : Type}

theorem bind_eq_ok {first : Except Cause α} {next : α → Except Cause β} {result : β} :
    (first >>= next) = .ok result ↔ ∃ value, first = .ok value ∧ next value = .ok result := by
  cases first with
  | error cause => simp [bind, Except.bind]
  | ok value => simp [bind, Except.bind]

theorem bind_unit_eq_ok {first : Except Cause Unit} {next : Unit → Except Cause β} {result : β} :
    (first >>= next) = .ok result ↔ first = .ok () ∧ next () = .ok result := by
  cases first with
  | error cause => simp [bind, Except.bind]
  | ok value => simp [bind, Except.bind]

theorem bind_eq_error {first : Except Cause α} {next : α → Except Cause β} {cause : Cause} :
    (first >>= next) = .error cause ↔
      first = .error cause ∨ ∃ value, first = .ok value ∧ next value = .error cause := by
  cases first with
  | error other => simp [bind, Except.bind]
  | ok value => simp [bind, Except.bind]

theorem map_eq_ok {first : Except Cause α} {translate : α → β} {result : β} :
    first.map translate = .ok result ↔ ∃ value, first = .ok value ∧ translate value = result := by
  cases first with
  | error other => simp [Except.map]
  | ok value => simp [Except.map]

theorem map_eq_error {first : Except Cause α} {translate : α → β} {cause : Cause} :
    first.map translate = .error cause ↔ first = .error cause := by
  cases first with
  | error other => simp [Except.map]
  | ok value => simp [Except.map]

theorem map_error_eq_ok {first : Except Cause α} {translate : Cause → Other} {value : α} :
    first.mapError translate = .ok value ↔ first = .ok value := by
  cases first with
  | error cause =>
      delta Except.mapError
      simp
  | ok other =>
      delta Except.mapError
      simp

theorem map_error_eq_error {first : Except Cause α} {translate : Cause → Other} {cause : Other} :
    first.mapError translate = .error cause ↔
      ∃ reason, first = .error reason ∧ translate reason = cause := by
  cases first with
  | error reason =>
      delta Except.mapError
      simp
  | ok value =>
      delta Except.mapError
      simp

def Succeeds (outcome : Except Cause α) : Prop := ∃ value, outcome = .ok value

@[simp] theorem succeeds_ok (value : α) : Succeeds (Except.ok value : Except Cause α) :=
  ⟨value, rfl⟩

theorem succeeds_bind_iff {first : Except Cause α} {next : α → Except Cause β} :
    Succeeds (first >>= next) ↔ ∃ value, first = .ok value ∧ Succeeds (next value) := by
  simp only [Succeeds, bind_eq_ok]
  constructor
  · rintro ⟨result, value, found, made⟩
    exact ⟨value, found, result, made⟩
  · rintro ⟨value, found, result, made⟩
    exact ⟨result, value, found, made⟩

theorem succeeds_map_iff {first : Except Cause α} {translate : α → β} :
    Succeeds (first.map translate) ↔ Succeeds first := by
  cases first with
  | error cause => simp [Succeeds, Except.map]
  | ok value => simp [Succeeds, Except.map]

theorem succeeds_map_m_iff {items : List α} {step : α → Except Cause β} :
    Succeeds (items.mapM step) ↔ ∀ item ∈ items, Succeeds (step item) := by
  induction items with
  | nil => simp [pure, Except.pure]
  | cons item rest induction =>
      rw [List.mapM_cons, succeeds_bind_iff, List.forall_mem_cons, ← induction]
      simp only [succeeds_bind_iff, pure, Except.pure, succeeds_ok, and_true, exists_and_right]
      rfl

end MakePlan.Result
