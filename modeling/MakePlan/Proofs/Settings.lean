import MakePlan.Proofs.Result
import MakePlan.Settings

/-!
# What resolving accepts

A configuration resolves when its free text is safe, its output has a name, and the catalog lists
its compiler and its platform.
-/

namespace MakePlan

set_option autoImplicit false

open Text

def SafeText (text : String) : Prop := ∀ c ∈ text.toList, isUnsafe c = false

instance (text : String) : Decidable (SafeText text) := List.decidableBAll _ text.toList

theorem SafeText.append {left right : String} (leftSafe : SafeText left)
    (rightSafe : SafeText right) : SafeText (left ++ right) := by
  intro c inside
  rw [String.toList_append, List.mem_append] at inside
  exact inside.elim (leftSafe c) (rightSafe c)

theorem is_blank_of_safe {c : Char} (safe : isUnsafe c = false) : isBlank c = false := by
  rw [isUnsafe, Bool.or_eq_false_iff] at safe
  exact safe.1

theorem SafeText.not_mem {text : String} (safe : SafeText text) {c : Char}
    (unsafeChar : isUnsafe c = true) : c ∉ text.toList := by
  intro inside
  rw [safe c inside] at unsafeChar
  contradiction

namespace Configuration

theorem check_slot_eq_ok_iff {configuration : Configuration} {slot : Slot} :
    configuration.checkSlot slot = .ok () ↔ SafeText (configuration.read slot) := by
  cases found : (configuration.read slot).toList.any isUnsafe with
  | true =>
      obtain ⟨c, inside, unsafeFound⟩ := List.any_eq_true.1 found
      simp only [checkSlot, found, if_true, reduceCtorEq, false_iff]
      intro safe
      exact safe.not_mem unsafeFound inside
  | false =>
      simp only [checkSlot, found, Bool.false_eq_true, if_false, true_iff]
      intro c inside
      have noneUnsafe := List.any_eq_false.1 found c inside
      simpa using noneUnsafe

theorem check_slots_eq_ok_iff {configuration : Configuration} :
    configuration.checkSlots = .ok () ↔
      SafeText configuration.output ∧ SafeText configuration.sourceDir ∧
        SafeText configuration.buildDir ∧ configuration.output ≠ "" := by
  constructor
  · intro passed
    obtain ⟨_, output, rest⟩ := Result.bind_eq_ok.1 passed
    obtain ⟨_, source, rest⟩ := Result.bind_eq_ok.1 rest
    obtain ⟨_, build, rest⟩ := Result.bind_eq_ok.1 rest
    refine ⟨check_slot_eq_ok_iff.1 output, check_slot_eq_ok_iff.1 source,
      check_slot_eq_ok_iff.1 build, ?_⟩
    intro empty
    rw [if_pos empty] at rest
    contradiction
  · rintro ⟨output, source, build, named⟩
    have outputPasses : configuration.checkSlot .output = .ok () := check_slot_eq_ok_iff.2 output
    have sourcePasses : configuration.checkSlot .sourceDir = .ok () := check_slot_eq_ok_iff.2 source
    have buildPasses : configuration.checkSlot .buildDir = .ok () := check_slot_eq_ok_iff.2 build
    rw [checkSlots, outputPasses, sourcePasses, buildPasses]
    exact if_neg named

def settingsWith (configuration : Configuration) (catalog : Catalog) (compiler : String)
    (platform : PlatformEntry) : Settings where
  compiler := compiler
  cflags := " ".intercalate (configuration.cflags catalog.toolchain platform.defines)
  ldflags := configuration.ldflags catalog.toolchain
  ldlibs := catalog.toolchain.ldlibs
  platform := platform

theorem resolve_eq_ok_iff {configuration : Configuration} {catalog : Catalog}
    {settings : Settings} :
    configuration.resolve catalog = .ok settings ↔
      configuration.checkSlots = .ok () ∧
        ∃ compiler platform,
          catalog.compilers.find? configuration.compiler.name = some compiler ∧
          catalog.platforms.find? configuration.platform.name = some platform ∧
          settings = configuration.settingsWith catalog compiler platform := by
  constructor
  · intro resolved
    obtain ⟨_, passed, found⟩ := Result.bind_eq_ok.1 resolved
    refine ⟨passed, ?_⟩
    cases compilerFound : catalog.compilers.find? configuration.compiler.name with
    | none => simp [compilerFound] at found
    | some compiler =>
        cases platformFound : catalog.platforms.find? configuration.platform.name with
        | none => simp [compilerFound, platformFound] at found
        | some platform =>
            simp only [compilerFound, platformFound, Except.ok.injEq] at found
            exact ⟨compiler, platform, rfl, rfl, found.symm⟩
  · rintro ⟨passed, compiler, platform, compilerFound, platformFound, rfl⟩
    rw [resolve, passed, compilerFound, platformFound]
    rfl

end Configuration

end MakePlan
