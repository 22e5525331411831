import MakePlan.Catalog.Loading
import MakePlan.Configuration.Tokens
import MakePlan.Proofs.Result
import MakePlan.Settings

/-!
# The exit status of a failure

Only build options that cannot be read give 2. Whatever goes wrong with the catalog or with what is
resolved under it gives 1.
-/

namespace MakePlan

set_option autoImplicit false

theorem Failure.exit_code_ne_zero (failure : Failure) : failure.exitCode ≠ 0 := by
  cases failure <;> simp [exitCode]

namespace Configuration

theorem exit_code_assignments {tokens : List String} {failure : Failure}
    (refused : assignments tokens = .error failure) : failure.exitCode = 2 := by
  induction tokens using assignments.induct with
  | case1 => simp [assignments] at refused
  | case2 token rest unknown =>
      rw [assignments, unknown] at refused
      cases refused
      rfl
  | case3 token rest flag found choice effect induction =>
      rw [assignments, found] at refused
      simp only [effect, Result.map_eq_error] at refused
      exact induction refused
  | case4 token flag found slot placeholder effect =>
      rw [assignments, found] at refused
      simp only [effect] at refused
      cases refused
      rfl
  | case5 token flag found slot placeholder effect value rest induction =>
      rw [assignments, found] at refused
      simp only [effect, Result.map_eq_error] at refused
      exact induction refused

theorem exit_code_of_tokens {tokens : List String} {failure : Failure}
    (refused : ofTokens tokens = .error failure) : failure.exitCode = 2 :=
  exit_code_assignments (Result.map_eq_error.1 refused)

theorem exit_code_check_slot {configuration : Configuration} {slot : Slot} {failure : Failure}
    (refused : configuration.checkSlot slot = .error failure) : failure.exitCode = 1 := by
  unfold checkSlot at refused
  split at refused
  · cases refused
    rfl
  · contradiction

theorem exit_code_check_slots {configuration : Configuration} {failure : Failure}
    (refused : configuration.checkSlots = .error failure) : failure.exitCode = 1 := by
  unfold checkSlots at refused
  rcases Result.bind_eq_error.1 refused with output | ⟨_, -, refused⟩
  · exact exit_code_check_slot output
  rcases Result.bind_eq_error.1 refused with source | ⟨_, -, refused⟩
  · exact exit_code_check_slot source
  rcases Result.bind_eq_error.1 refused with build | ⟨_, -, refused⟩
  · exact exit_code_check_slot build
  split at refused
  · cases refused
    rfl
  · contradiction

theorem exit_code_resolve {configuration : Configuration} {catalog : Catalog} {failure : Failure}
    (refused : configuration.resolve catalog = .error failure) : failure.exitCode = 1 := by
  unfold resolve at refused
  rcases Result.bind_eq_error.1 refused with slots | ⟨_, -, refused⟩
  · exact exit_code_check_slots slots
  split at refused
  · cases refused
    rfl
  · split at refused
    · cases refused
      rfl
    · contradiction

end Configuration

namespace Catalog

theorem exit_code_validate {catalog : Catalog} {failure : Failure}
    (refused : catalog.validate = .error failure) : failure.exitCode = 1 := by
  unfold validate at refused
  split at refused
  · cases refused
    rfl
  · split at refused
    · cases refused
      rfl
    · contradiction

theorem exit_code_decode {document : String} {failure : Failure}
    (refused : decode document = .error failure) : failure.exitCode = 1 := by
  unfold decode at refused
  split at refused
  · cases refused
    rfl
  · obtain ⟨mismatch, -, rfl⟩ := Result.map_error_eq_error.1 refused
    unfold refusal
    split
    · rfl
    · rfl

theorem exit_code_parse {document : String} {failure : Failure}
    (refused : parse document = .error failure) : failure.exitCode = 1 := by
  rcases Result.bind_eq_error.1 refused with undecoded | ⟨catalog, -, refused⟩
  · exact exit_code_decode undecoded
  rcases Result.bind_eq_error.1 refused with invalid | ⟨_, -, refused⟩
  · exact exit_code_validate invalid
  · contradiction

end Catalog

end MakePlan
