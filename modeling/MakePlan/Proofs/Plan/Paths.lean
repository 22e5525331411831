import MakePlan.Proofs.Plan.Safety

/-!
# Where a plan's paths come from

Each listed name has one object and one source, with the same stem. Directories and suffixes cancel,
so both paths determine the name, and each of them determines the other.
-/

namespace MakePlan

set_option autoImplicit false

/-- A text stands for a directory in front of a name: it is empty or ends in a slash, and it is the
directory itself unless a slash was missing. -/
structure FrontOf (directory front : String) : Prop where
  joinable : front = "" ∨ front.toList.getLast? = some '/'
  kept : front = directory ∨
    directory ≠ "" ∧ directory.toList.getLast? ≠ some '/' ∧ front = directory ++ "/"

theorem front_of_directory (directory : String) :
    FrontOf directory (directoryPrefix directory) := by
  by_cases joinable : directory = "" ∨ directory.toList.getLast? = some '/'
  · have same : directoryPrefix directory = directory := if_pos joinable
    rw [same]
    exact ⟨joinable, .inl rfl⟩
  · have added : directoryPrefix directory = directory ++ "/" := if_neg joinable
    obtain ⟨nonempty, noSlash⟩ := not_or.1 joinable
    rw [added]
    constructor
    · right
      simp
    · exact .inr ⟨nonempty, noSlash, rfl⟩

theorem get_elem?_map_eq_iff {α β : Type} {list : List α} {f : α → β}
    (inj : ∀ left ∈ list, ∀ right ∈ list, f left = f right ↔ left = right) (i j : Nat) :
    (list.map f)[i]? = (list.map f)[j]? ↔ list[i]? = list[j]? := by
  rw [List.getElem?_map, List.getElem?_map]
  cases left : list[i]? with
  | none => cases list[j]? <;> simp
  | some first =>
      cases right : list[j]? with
      | none => simp
      | some second =>
          simpa using inj first (List.mem_of_getElem? left) second (List.mem_of_getElem? right)

namespace Configuration

variable {configuration : Configuration} {catalog : Catalog}

/-- An object tells its name, in any catalog. -/
theorem object_eq_iff {name other : String} :
    (configuration.compilationUnit catalog name).object = configuration.objectPrefix ++ other ↔
      name = other :=
  String.append_right_inj configuration.objectPrefix

/-- A source tells its stem. Only in an accepted catalog is the stem what stands before the object
suffix. -/
theorem source_eq_iff (accepted : catalog.validate = .ok ()) {name : String}
    (listed : name ∈ catalog.allUnits) (stem : String) :
    (configuration.compilationUnit catalog name).source =
        configuration.sourcePrefix ++ stem ++ catalog.sourceSuffix ↔
      name = stem ++ catalog.objectSuffix := by
  obtain ⟨own, -, joined, unitEq⟩ := exists_stem configuration accepted listed
  rw [unitEq, joined]
  simp only [String.append_left_inj, String.append_right_inj]

theorem source_inj (accepted : catalog.validate = .ok ()) {name other : String}
    (listed : name ∈ catalog.allUnits) (otherListed : other ∈ catalog.allUnits) :
    (configuration.compilationUnit catalog name).source =
        (configuration.compilationUnit catalog other).source ↔ name = other := by
  obtain ⟨stem, -, joined, unitEq⟩ := exists_stem configuration accepted otherListed
  rw [unitEq, joined]
  exact source_eq_iff accepted listed stem

theorem mem_all_units_of_find? {key : String} {platform : PlatformEntry}
    (found : catalog.platforms.find? key = some platform) {name : String}
    (inside : name ∈ catalog.common ++ platform.units) : name ∈ catalog.allUnits :=
  mem_all_units (NameMap.mem_values_of_find? found) inside

theorem eq_of_plain_units_at {platform : PlatformEntry} {i : Nat} {name : String}
    {unit : CompilationUnit} (nameAt : (catalog.common ++ platform.units)[i]? = some name)
    (unitAt : (configuration.plainUnits catalog platform)[i]? = some unit) :
    unit = configuration.compilationUnit catalog name := by
  rw [plainUnits, List.getElem?_map, nameAt, Option.map_some, Option.some.injEq] at unitAt
  exact unitAt.symm

theorem plain_units_paths_at (path : CompilationUnit → String) (platform : PlatformEntry)
    (i : Nat) :
    (configuration.plainUnits catalog platform)[i]?.map path =
      ((catalog.common ++ platform.units).map
        fun name => path (configuration.compilationUnit catalog name))[i]? := by
  rw [plainUnits, ← List.getElem?_map, List.map_map]
  rfl

theorem objects_at_iff (platform : PlatformEntry) (i j : Nat) :
    (configuration.plainUnits catalog platform)[i]?.map (·.object) =
        (configuration.plainUnits catalog platform)[j]?.map (·.object) ↔
      (catalog.common ++ platform.units)[i]? = (catalog.common ++ platform.units)[j]? := by
  rw [plain_units_paths_at, plain_units_paths_at]
  exact get_elem?_map_eq_iff (fun _ _ _ _ => object_eq_iff) i j

theorem sources_at_iff (accepted : catalog.validate = .ok ()) {key : String}
    {platform : PlatformEntry} (found : catalog.platforms.find? key = some platform) (i j : Nat) :
    (configuration.plainUnits catalog platform)[i]?.map (·.source) =
        (configuration.plainUnits catalog platform)[j]?.map (·.source) ↔
      (catalog.common ++ platform.units)[i]? = (catalog.common ++ platform.units)[j]? := by
  rw [plain_units_paths_at, plain_units_paths_at]
  apply get_elem?_map_eq_iff
  intro left leftInside right rightInside
  exact source_inj accepted (mem_all_units_of_find? found leftInside)
    (mem_all_units_of_find? found rightInside)

theorem units_of_plain (plain : configuration.testMode = false) (platform : PlatformEntry) :
    configuration.units catalog platform = configuration.plainUnits catalog platform := by
  simp [units, plain]

/-- Outside test mode a plan has one unit for each listed name, in the same order. The unit's object
is the name below the build directory, its source is the same stem below the source directory, and
equal names, equal objects and equal sources go together. -/
theorem plan_paths (accepted : catalog.validate = .ok ()) {settings : Settings}
    (resolved : configuration.resolve catalog = .ok settings)
    (plain : configuration.testMode = false) :
    ∃ platform, catalog.platforms.find? configuration.platform.name = some platform ∧
      let names := catalog.common ++ platform.units
      let plan := configuration.plan catalog settings
      plan.units.length = names.length ∧
      (∀ (i : Nat) (name : String) (unit : CompilationUnit),
        names[i]? = some name → plan.units[i]? = some unit →
          unit.object = plan.buildDir ++ "obj/" ++ name ∧
          ∃ stem, stem ≠ "" ∧
            unit.object = plan.buildDir ++ "obj/" ++ stem ++ catalog.objectSuffix ∧
            unit.source = configuration.sourcePrefix ++ stem ++ catalog.sourceSuffix) ∧
      (∀ i j : Nat,
        (plan.units[i]?.map (·.object) = plan.units[j]?.map (·.object) ↔ names[i]? = names[j]?) ∧
        (plan.units[i]?.map (·.source) = plan.units[j]?.map (·.source) ↔ names[i]? = names[j]?)) ∧
      FrontOf configuration.buildDir plan.buildDir ∧
      FrontOf configuration.sourceDir configuration.sourcePrefix ∧
      plan.target = plan.buildDir ++ configuration.output ∧
      plan.deps = catalog.headers.map (configuration.sourcePrefix ++ ·) := by
  obtain ⟨-, compiler, platform, -, found, rfl⟩ := resolve_eq_ok_iff.1 resolved
  refine ⟨platform, found, ?_⟩
  intro names plan
  have unitsEq : plan.units = configuration.plainUnits catalog platform :=
    units_of_plain plain platform
  rw [unitsEq]
  refine ⟨List.length_map _, ?_, ?_, front_of_directory _, front_of_directory _, rfl, rfl⟩
  · intro i name unit nameAt unitAt
    have listed := mem_all_units_of_find? found (List.mem_of_getElem? nameAt)
    obtain ⟨stem, named, joined, paths⟩ := exists_stem configuration accepted listed
    rw [eq_of_plain_units_at nameAt unitAt, paths]
    refine ⟨rfl, stem, named, ?_, rfl⟩
    rw [joined, ← String.append_assoc]
    rfl
  · intro i j
    exact ⟨objects_at_iff platform i j, sources_at_iff accepted found i j⟩

end Configuration

/-- A catalog without an object suffix, in which one name ends in the source suffix and one is
listed twice. -/
def Catalog.suffixless : Catalog :=
  { builtin with objectSuffix := "", common := ["main", "b.c", "main"] }

def Configuration.besideSources : Configuration where
  platform := .linux
  sourceDir := ""
  buildDir := "out"

theorem Configuration.plan_paths_suffixless :
    Catalog.suffixless.validate = .ok () ∧ besideSources.testMode = false ∧
    ∃ settings, besideSources.resolve .suffixless = .ok settings ∧
      let plan := besideSources.plan .suffixless settings
      (∃ unit, plan.units[1]? = some unit ∧ unit.object = "out/obj/b.c" ∧ unit.source = "b.c.c") ∧
      plan.units[0]?.map (·.source) = plan.units[2]?.map (·.source) ∧
      plan.units[0]?.map (·.source) ≠ plan.units[1]?.map (·.source) ∧
      plan.buildDir = "out/" := by
  have accepted : Catalog.suffixless.validate = .ok () :=
    Catalog.validate_eq_ok_iff.2 ⟨by decide, by decide +kernel⟩
  obtain ⟨settings, resolved⟩ : ∃ settings, besideSources.resolve .suffixless = .ok settings :=
    besideSources.exists_settings_of_tables rfl rfl (by decide)
  obtain ⟨platform, -, -, units, positions, front, -, -, -⟩ := plan_paths accepted resolved rfl
  refine ⟨accepted, rfl, _, resolved, ?_, ?_, ?_, rfl⟩
  · obtain ⟨object, stem, -, joined, source⟩ := units 1 "b.c" _ rfl rfl
    have stemEq : stem = "b.c" := by
      have same := joined.symm.trans object
      rw [String.append_assoc, String.append_right_inj] at same
      simpa [Catalog.suffixless] using same
    rw [stemEq] at source
    exact ⟨_, rfl, object, source⟩
  · exact (positions 0 2).2.2 rfl
  · intro same
    exact absurd ((positions 0 1).2.1 same) (by simp [Catalog.suffixless])

end MakePlan
