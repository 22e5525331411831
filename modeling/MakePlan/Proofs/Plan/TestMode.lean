import MakePlan.Proofs.Plan.Goals
import MakePlan.Proofs.Plan.Paths

/-!
# Test mode

Test mode compiles the entry point from a local source and changes nothing else about a plan. The
entry point is known by its name alone, although it is looked up by its paths.
-/

namespace MakePlan

set_option autoImplicit false

/-- The name under which a catalog may list its entry point. -/
def Catalog.entryName (catalog : Catalog) : String := catalog.entryPoint ++ catalog.objectSuffix

namespace Configuration

variable {configuration : Configuration} {catalog : Catalog}

theorem object_eq_entry_point_iff {name : String} :
    (configuration.compilationUnit catalog name).object =
        configuration.objectPrefix ++ catalog.entryPoint ++ catalog.objectSuffix ↔
      name = catalog.entryName := by
  rw [String.append_assoc]
  exact object_eq_iff

/-- The two tests for the entry point agree on every listed name. -/
theorem is_entry_point_iff (accepted : catalog.validate = .ok ()) {name : String}
    (listed : name ∈ catalog.allUnits) :
    configuration.isEntryPoint catalog (configuration.compilationUnit catalog name) = true ↔
      name = catalog.entryName := by
  rw [isEntryPoint, Bool.or_eq_true, decide_eq_true_eq, decide_eq_true_eq,
    object_eq_entry_point_iff, source_eq_iff accepted listed, Catalog.entryName, or_self]

theorem substitute_entry_point_of_absent (accepted : catalog.validate = .ok ())
    {names : List String} (listed : ∀ name ∈ names, name ∈ catalog.allUnits)
    (absent : catalog.entryName ∉ names) :
    configuration.substituteEntryPoint catalog
        (names.map (configuration.compilationUnit catalog)) =
      names.map (configuration.compilationUnit catalog) := by
  have noneFound : configuration.entryPoint? catalog
      (names.map (configuration.compilationUnit catalog)) = none := by
    rw [entryPoint?, List.find?_eq_none]
    intro unit inside isEntry
    obtain ⟨name, nameInside, rfl⟩ := List.mem_map.1 inside
    have named := (is_entry_point_iff accepted (listed name nameInside)).1 isEntry
    exact absent (named ▸ nameInside)
  rw [substituteEntryPoint, noneFound]

/-- Of several units for the entry point, only the first is moved. -/
theorem substitute_entry_point_of_first (accepted : catalog.validate = .ok ())
    {front back : List String} (absent : catalog.entryName ∉ front)
    (listed : ∀ name ∈ front ++ catalog.entryName :: back, name ∈ catalog.allUnits) :
    configuration.substituteEntryPoint catalog
        ((front ++ catalog.entryName :: back).map (configuration.compilationUnit catalog)) =
      (front ++ back).map (configuration.compilationUnit catalog) ++
        [{ configuration.compilationUnit catalog catalog.entryName with
            source := catalog.localEntryPoint }] := by
  have frontPassed : ∀ unit ∈ front.map (configuration.compilationUnit catalog),
      ¬ configuration.isEntryPoint catalog unit = true := by
    intro unit inside isEntry
    obtain ⟨name, nameInside, rfl⟩ := List.mem_map.1 inside
    have nameListed := listed name (List.mem_append_left _ nameInside)
    have named := (is_entry_point_iff accepted nameListed).1 isEntry
    exact absent (named ▸ nameInside)
  have isEntry : configuration.isEntryPoint catalog
      (configuration.compilationUnit catalog catalog.entryName) = true :=
    (is_entry_point_iff accepted (listed _ (by simp))).2 rfl
  have found : configuration.entryPoint? catalog
      ((front ++ catalog.entryName :: back).map (configuration.compilationUnit catalog)) =
        some (configuration.compilationUnit catalog catalog.entryName) := by
    rw [entryPoint?, List.map_append, List.map_cons, List.find?_append,
      List.find?_eq_none.2 frontPassed, List.find?_cons_of_pos isEntry]
    rfl
  rw [substituteEntryPoint, found, List.map_append, List.map_cons,
    List.eraseP_append_right _ frontPassed, List.eraseP_cons_of_pos isEntry, List.map_append]

theorem substitute_entry_point_of_present (accepted : catalog.validate = .ok ())
    {names : List String} (listed : ∀ name ∈ names, name ∈ catalog.allUnits)
    (present : catalog.entryName ∈ names) :
    ∃ before removed after,
      names.map (configuration.compilationUnit catalog) = before ++ removed :: after ∧
      before.length = names.idxOf catalog.entryName ∧
      configuration.substituteEntryPoint catalog
          (names.map (configuration.compilationUnit catalog)) =
        before ++ after ++ [⟨removed.object, catalog.localEntryPoint⟩] := by
  obtain ⟨front, back, rfl, absent⟩ := List.eq_append_cons_of_mem present
  refine ⟨front.map (configuration.compilationUnit catalog),
    configuration.compilationUnit catalog catalog.entryName,
    back.map (configuration.compilationUnit catalog), ?_, ?_, ?_⟩
  · rw [List.map_append, List.map_cons]
  · rw [List.length_map, List.idxOf_append, if_neg absent, List.idxOf_cons_self, Nat.zero_add]
  · rw [← List.map_append]
    exact substitute_entry_point_of_first accepted absent listed

/-- The plan in test mode is the ordinary plan but for its units. If the entry point is listed, the
first unit for it goes to the end with the local source and its own object, and all others stay as
they were; otherwise the plans are the same. Either way the two plans have the same objects. -/
theorem plan_test_mode (accepted : catalog.validate = .ok ()) {settings : Settings}
    (resolved : configuration.resolve catalog = .ok settings) :
    let testing := { configuration with testMode := true }
    let ordinary := { configuration with testMode := false }
    testing.resolve catalog = .ok settings ∧ ordinary.resolve catalog = .ok settings ∧
    ∃ platform, catalog.platforms.find? configuration.platform.name = some platform ∧
      let names := catalog.common ++ platform.units
      let test := testing.plan catalog settings
      let plain := ordinary.plan catalog settings
      test = { plain with units := test.units } ∧
      (∀ (i : Nat) (name : String) (unit : CompilationUnit),
        names[i]? = some name → plain.units[i]? = some unit →
          (unit.object = configuration.objectPrefix ++ catalog.entryPoint ++ catalog.objectSuffix ↔
            name = catalog.entryPoint ++ catalog.objectSuffix) ∧
          (unit.source = configuration.sourcePrefix ++ catalog.entryPoint ++ catalog.sourceSuffix ↔
            name = catalog.entryPoint ++ catalog.objectSuffix)) ∧
      (catalog.entryPoint ++ catalog.objectSuffix ∉ names → test = plain) ∧
      (catalog.entryPoint ++ catalog.objectSuffix ∈ names →
        ∃ before removed after,
          plain.units = before ++ removed :: after ∧
          before.length = names.idxOf (catalog.entryPoint ++ catalog.objectSuffix) ∧
          test.units = before ++ after ++ [⟨removed.object, catalog.localEntryPoint⟩]) ∧
      (test.units.map (·.object)).Perm (plain.units.map (·.object)) ∧
      test.units.length = plain.units.length := by
  intro testing ordinary
  refine ⟨resolved, resolved, ?_⟩
  obtain ⟨-, compiler, platform, -, found, rfl⟩ := resolve_eq_ok_iff.1 resolved
  refine ⟨platform, found, ?_⟩
  intro names test plain
  have listed : ∀ name ∈ names, name ∈ catalog.allUnits :=
    fun name inside => mem_all_units_of_find? found inside
  -- No path depends on the mode, so both plans start from the same units.
  have plainUnitsEq : plain.units = names.map (configuration.compilationUnit catalog) := rfl
  have testUnitsEq : test.units = configuration.substituteEntryPoint catalog
      (names.map (configuration.compilationUnit catalog)) := rfl
  have objects : (test.units.map (·.object)).Perm (plain.units.map (·.object)) :=
    objects_perm testing catalog platform
  refine ⟨rfl, ?_, ?_, ?_, objects, ?_⟩
  · intro i name unit nameAt unitAt
    rw [eq_of_plain_units_at nameAt unitAt]
    exact ⟨object_eq_entry_point_iff,
      source_eq_iff accepted (listed name (List.mem_of_getElem? nameAt)) catalog.entryPoint⟩
  · intro absent
    have sameUnits : test.units = plain.units := by
      rw [testUnitsEq, plainUnitsEq]
      exact substitute_entry_point_of_absent accepted listed absent
    change { plain with units := test.units } = plain
    rw [sameUnits]
  · intro present
    rw [plainUnitsEq, testUnitsEq]
    exact substitute_entry_point_of_present accepted listed present
  · simpa using objects.length_eq

end Configuration

/-- A catalog in which the entry point is listed twice, but not first. -/
def Catalog.repeatedEntry : Catalog :=
  { builtin with common := ["log.o", "main.o", "mem.o", "main.o"] }

theorem Configuration.plan_test_mode_repeated :
    Catalog.repeatedEntry.validate = .ok () ∧
    ∃ settings, ({} : Configuration).resolve .repeatedEntry = .ok settings ∧
      let test := ({ testMode := true } : Configuration).plan .repeatedEntry settings
      let plain := ({} : Configuration).plan .repeatedEntry settings
      ∃ first removed rest, plain.units = first :: removed :: rest ∧
        test.units = first :: rest ++ [⟨removed.object, "main.c"⟩] := by
  have accepted : Catalog.repeatedEntry.validate = .ok () :=
    Catalog.validate_eq_ok_iff.2 ⟨by decide, by decide +kernel⟩
  obtain ⟨settings, resolved⟩ :
      ∃ settings, ({} : Configuration).resolve .repeatedEntry = .ok settings :=
    Configuration.exists_settings_of_tables {} rfl rfl (by decide)
  refine ⟨accepted, _, resolved, ?_⟩
  obtain ⟨-, -, platform, -, -, -, -, listed, -, -⟩ := plan_test_mode accepted resolved
  obtain ⟨before, removed, after, plainUnitsEq, position, testUnitsEq⟩ :=
    listed (List.mem_append_left _ (by decide))
  have oneBefore : before.length = 1 := position
  obtain ⟨first, rfl⟩ := List.length_eq_one_iff.1 oneBefore
  exact ⟨first, removed, after, plainUnitsEq, testUnitsEq⟩

end MakePlan
