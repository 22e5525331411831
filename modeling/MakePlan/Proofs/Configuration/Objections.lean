import MakePlan.Proofs.Catalog.Validation

/-!
# What speaks against a configuration

Resolving goes through a list of objections and reports the first that applies. The list shows which
part of a configuration and of a catalog can matter, and that with the built-in catalog only free
text can.
-/

namespace MakePlan

set_option autoImplicit false

open Text

/-- Text that could not stand in a Makefile: it has a blank, or a mark with a meaning there. -/
def UnsafeText (text : String) : Prop :=
  ∃ c ∈ text.toList, isBlank c = true ∨ c ∈ ['#', '$', '\\', ':', ';', '%', '=']

instance (text : String) : Decidable (UnsafeText text) :=
  List.decidableBEx (fun c => isBlank c = true ∨ c ∈ ['#', '$', '\\', ':', ';', '%', '='])
    text.toList

theorem any_is_unsafe_eq (text : String) : text.toList.any isUnsafe = decide (UnsafeText text) := by
  rw [Bool.eq_iff_iff, List.any_eq_true, decide_eq_true_iff, UnsafeText]
  simp [isUnsafe]

structure Objection where
  applies : Bool
  failure : Failure

namespace Objection

def first? (objections : List Objection) : Option Failure :=
  (objections.find? (·.applies)).map (·.failure)

def raise : List Objection → Except Failure Unit
  | [] => .ok ()
  | objection :: rest => if objection.applies then .error objection.failure else raise rest

theorem raise_append (front rest : List Objection) :
    raise (front ++ rest) = raise front >>= fun _ => raise rest := by
  induction front with
  | nil => rfl
  | cons objection front induction =>
      cases applies : objection.applies with
      | true => simp [raise, applies, bind, Except.bind]
      | false => simpa [raise, applies] using induction

theorem raise_eq (objections : List Objection) :
    raise objections = (first? objections).elim (.ok ()) .error := by
  induction objections with
  | nil => rfl
  | cons objection rest induction =>
      cases applies : objection.applies with
      | true => simp [raise, first?, applies]
      | false => simpa [raise, first?, applies] using induction

theorem raise_eq_error_iff {objections : List Objection} {failure : Failure} :
    raise objections = .error failure ↔ first? objections = some failure := by
  rw [raise_eq]
  cases first? objections with
  | none => simp
  | some other => simp

theorem raise_eq_ok_iff {objections : List Objection} :
    raise objections = .ok () ↔ first? objections = none := by
  rw [raise_eq]
  cases first? objections with
  | none => simp
  | some other => simp

end Objection

namespace Configuration

def slotObjection (configuration : Configuration) (slot : Slot) : Objection where
  applies := UnsafeText (configuration.read slot)
  failure := .unsafeValue slot (configuration.read slot)

/-- What may speak against the free text, in the order in which it counts. -/
def textObjections (configuration : Configuration) : List Objection :=
  [ configuration.slotObjection .output,
    configuration.slotObjection .sourceDir,
    configuration.slotObjection .buildDir,
    ⟨configuration.output = "", .unsafeValue .output ""⟩ ]

/-- What may speak against a configuration under a catalog. -/
def objections (configuration : Configuration) (catalog : Catalog) : List Objection :=
  configuration.textObjections ++
    [ ⟨¬ catalog.compilers.Lists configuration.compiler.name,
        .unknownCompiler configuration.compiler.name⟩,
      ⟨¬ catalog.platforms.Lists configuration.platform.name,
        .unknownPlatform configuration.platform.name⟩ ]

variable {configuration : Configuration} {catalog : Catalog}

theorem check_slot_eq_raise (configuration : Configuration) (slot : Slot) :
    configuration.checkSlot slot = Objection.raise [configuration.slotObjection slot] := by
  rw [checkSlot, any_is_unsafe_eq]
  rfl

theorem check_slots_eq_raise (configuration : Configuration) :
    configuration.checkSlots = Objection.raise configuration.textObjections := by
  have oneByOne : configuration.textObjections =
      [configuration.slotObjection .output] ++ ([configuration.slotObjection .sourceDir] ++
        ([configuration.slotObjection .buildDir] ++
          [⟨configuration.output = "", .unsafeValue .output ""⟩])) := rfl
  rw [oneByOne, Objection.raise_append, Objection.raise_append, Objection.raise_append,
    ← check_slot_eq_raise, ← check_slot_eq_raise, ← check_slot_eq_raise, checkSlots]
  simp only [Objection.raise, decide_eq_true_eq]

theorem map_resolve (configuration : Configuration) (catalog : Catalog) :
    (configuration.resolve catalog).map (fun _ => ()) =
      Objection.raise (configuration.objections catalog) := by
  rw [objections, Objection.raise_append, ← check_slots_eq_raise, resolve]
  cases configuration.checkSlots with
  | error failure => rfl
  | ok _ =>
      simp only [bind, Except.bind, Objection.raise, ← NameMap.find?_eq_none_iff, decide_eq_true_eq]
      cases catalog.compilers.find? configuration.compiler.name with
      | none => rfl
      | some compiler =>
          cases catalog.platforms.find? configuration.platform.name with
          | none => rfl
          | some platform => rfl

theorem resolve_eq_error_iff {failure : Failure} :
    configuration.resolve catalog = .error failure ↔
      Objection.first? (configuration.objections catalog) = some failure := by
  rw [← Objection.raise_eq_error_iff, ← map_resolve, Result.map_eq_error]

theorem exists_settings_iff :
    (∃ settings, configuration.resolve catalog = .ok settings) ↔
      Objection.first? (configuration.objections catalog) = none := by
  rw [← Objection.raise_eq_ok_iff, ← map_resolve, Result.map_eq_ok]
  simp

end Configuration

/-- The catalogs have entries for the same compilers and platforms, whatever the entries say. -/
structure Catalog.ListAlike (left right : Catalog) : Prop where
  compilers : ∀ name, left.compilers.Lists name ↔ right.compilers.Lists name
  platforms : ∀ name, left.platforms.Lists name ↔ right.platforms.Lists name

namespace Configuration

theorem objections_of_alike (configuration : Configuration) {catalog other : Catalog}
    (alike : catalog.ListAlike other) (profile : Profile) (byteOrder : ByteOrder)
    (testMode : Bool) :
    { configuration with profile, byteOrder, testMode }.objections other =
      configuration.objections catalog := by
  have sameCompilers := alike.compilers configuration.compiler.name
  have samePlatforms := alike.platforms configuration.platform.name
  simp only [objections, sameCompilers, samePlatforms]
  rfl

/-- The built-in catalog lists every compiler and every platform, so only free text is left. -/
theorem slot_of_objection_builtin {configuration : Configuration} {failure : Failure}
    (found : Objection.first? (configuration.objections .builtin) = some failure) :
    ∃ slot, failure = .unsafeValue slot (configuration.read slot) := by
  have compilerListed := NameMap.lists_of_find? (Catalog.compiler_builtin configuration.compiler)
  obtain ⟨entry, platformFound⟩ := Catalog.exists_platform_builtin configuration.platform
  have platformListed := NameMap.lists_of_find? platformFound
  obtain ⟨objection, objectionFound, rfl⟩ := Option.map_eq_some_iff.1 found
  have applies := List.find?_some objectionFound
  have inside := List.mem_of_find?_eq_some objectionFound
  rcases List.mem_append.1 inside with inText | inTables
  · simp only [textObjections, List.mem_cons, List.not_mem_nil, or_false] at inText
    rcases inText with rfl | rfl | rfl | rfl
    · exact ⟨.output, rfl⟩
    · exact ⟨.sourceDir, rfl⟩
    · exact ⟨.buildDir, rfl⟩
    · have empty : configuration.output = "" := of_decide_eq_true applies
      exact ⟨.output, by rw [read, empty]⟩
  · simp only [List.mem_cons, List.not_mem_nil, or_false] at inTables
    rcases inTables with rfl | rfl
    · exact absurd compilerListed (of_decide_eq_true applies)
    · exact absurd platformListed (of_decide_eq_true applies)

/-- Resolving fails with the first objection that applies, and gives settings when none does.
Profile, byte order and test mode play no part in that, nor does anything that a catalog says about
the compilers and platforms that it lists. With the built-in catalog a configuration, from whichever
build options it was read, is refused for the text of a slot only. -/
theorem resolve_first_objection (configuration : Configuration) (catalog : Catalog) :
    (∀ failure, configuration.resolve catalog = .error failure ↔
        Objection.first? (configuration.objections catalog) = some failure) ∧
      ((∃ settings, configuration.resolve catalog = .ok settings) ↔
        Objection.first? (configuration.objections catalog) = none) ∧
      (∀ profile byteOrder testMode other, catalog.ListAlike other →
        ({ configuration with profile, byteOrder, testMode }.resolve other).map (fun _ => ()) =
          (configuration.resolve catalog).map (fun _ => ())) ∧
      ∀ failure, configuration.resolve .builtin = .error failure →
        ∃ slot, failure = .unsafeValue slot (configuration.read slot) := by
  refine ⟨fun _ => resolve_eq_error_iff, exists_settings_iff, ?_, ?_⟩
  · intro profile byteOrder testMode other alike
    rw [map_resolve, map_resolve, configuration.objections_of_alike alike]
  · intro failure refused
    exact slot_of_objection_builtin (resolve_eq_error_iff.1 refused)

/-- The directories are looked at before the missing name. -/
example : Objection.first? (objections { output := "", buildDir := "c:/out" } .builtin) =
    some (.unsafeValue .buildDir "c:/out") := by
  decide +kernel

end Configuration

end MakePlan
