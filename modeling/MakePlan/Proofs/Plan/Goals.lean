import MakePlan.Configuration.Tokens
import MakePlan.Proofs.Plan.Safety
import Mathlib.Data.List.Nodup

/-!
# Which rule a goal finds

A look-up answers with the first rule for a goal, and the link rule comes first. So each other goal
finds its own rule exactly when the target has another name.
-/

namespace MakePlan

set_option autoImplicit false

namespace Plan

theorem rule?_target (plan : Plan) : plan.toMakefile.rule? plan.target = some plan.linkRule := by
  simp [Makefile.rule?, toMakefile, linkRule]

theorem rule?_other {plan : Plan} {goal : String} (apart : plan.target ≠ goal) :
    plan.toMakefile.rule? goal =
      (phonyRule :: plan.cleanRule :: plan.units.map compileRule).find? (goal ∈ ·.targets) := by
  have passed : decide (goal ∈ plan.linkRule.targets) = false := by
    rw [decide_eq_false_iff_not, linkRule, List.mem_singleton]
    exact fun same => apart same.symm
  rw [Makefile.rule?, toMakefile]
  exact List.find?_cons_of_neg (by simp [passed])

theorem link_rule_ne_clean_rule (plan : Plan) : plan.linkRule ≠ plan.cleanRule := by
  intro same
  have recipes := congrArg Rule.recipe same
  rw [linkRule, cleanRule, List.cons.injEq] at recipes
  have letters := congrArg String.toList recipes.1
  rw [String.toList_append] at letters
  simp at letters

theorem link_rule_ne_compile_rule (plan : Plan) (unit : CompilationUnit) :
    plan.linkRule ≠ compileRule unit := by
  intro same
  have lengths := congrArg (fun rule => rule.recipe.length) same
  simp [linkRule, compileRule] at lengths

theorem rule?_clean_iff (plan : Plan) :
    plan.toMakefile.rule? "clean" = some plan.cleanRule ↔ plan.target ≠ "clean" := by
  constructor
  · intro found taken
    rw [← taken, rule?_target, Option.some.injEq] at found
    exact plan.link_rule_ne_clean_rule found
  · intro apart
    rw [rule?_other apart, List.find?_cons_of_neg (by decide)]
    exact List.find?_cons_of_pos (by simp [cleanRule])

theorem find?_compile_rule {units : List CompilationUnit}
    (distinct : (units.map (·.object)).Nodup) {unit : CompilationUnit} (inside : unit ∈ units) :
    (units.map compileRule).find? (unit.object ∈ ·.targets) = some (compileRule unit) := by
  induction units with
  | nil => simp at inside
  | cons first others induction =>
      rw [List.map_cons, List.nodup_cons] at distinct
      rcases List.mem_cons.1 inside with here | there
      · subst here
        exact List.find?_cons_of_pos (by simp [compileRule])
      · have apart : unit.object ≠ first.object := by
          intro same
          exact distinct.1 (same ▸ List.mem_map.2 ⟨unit, there, rfl⟩)
        rw [List.map_cons, List.find?_cons_of_neg (by simp [compileRule, apart])]
        exact induction distinct.2 there

theorem rule?_object_iff {plan : Plan} (distinct : (plan.units.map (·.object)).Nodup)
    {unit : CompilationUnit} (inside : unit ∈ plan.units) (notPhony : unit.object ≠ ".PHONY")
    (notClean : unit.object ≠ "clean") :
    plan.toMakefile.rule? unit.object = some (compileRule unit) ↔ plan.target ≠ unit.object := by
  constructor
  · intro found taken
    rw [← taken, rule?_target, Option.some.injEq] at found
    exact plan.link_rule_ne_compile_rule unit found
  · intro apart
    rw [rule?_other apart, List.find?_cons_of_neg (by simp [phonyRule, notPhony]),
      List.find?_cons_of_neg (by simp [cleanRule, notClean])]
    exact find?_compile_rule distinct inside

theorem phony_to_makefile {plan : Plan} (objects : ∀ unit ∈ plan.units, unit.object ≠ ".PHONY") :
    plan.toMakefile.phony =
      (if plan.target = ".PHONY" then plan.units.map (·.object) else []) ++ ["clean"] := by
  have noUnit : (plan.units.map compileRule).filter (".PHONY" ∈ ·.targets) = [] := by
    rw [List.filter_eq_nil_iff]
    intro rule inside
    obtain ⟨unit, unitInside, rfl⟩ := List.mem_map.1 inside
    have apart := objects unit unitInside
    simp [compileRule, apart.symm]
  have goals : [plan.linkRule, phonyRule, plan.cleanRule].filter (".PHONY" ∈ ·.targets) =
      (if plan.target = ".PHONY" then [plan.linkRule] else []) ++ [phonyRule] := by
    by_cases taken : plan.target = ".PHONY"
    · simp [linkRule, phonyRule, cleanRule, taken]
    · have apart : ¬ ".PHONY" = plan.target := fun same => taken same.symm
      simp [linkRule, phonyRule, cleanRule, taken, apart]
  rw [Makefile.phony, toMakefile, List.filter_append, noUnit, goals, List.append_nil,
    List.flatMap_append]
  split
  · simp [linkRule, phonyRule]
  · simp [phonyRule]

theorem phony_iff {plan : Plan} (objects : ∀ unit ∈ plan.units, unit.object ≠ ".PHONY")
    (someUnit : plan.units ≠ []) :
    plan.toMakefile.phony = ["clean"] ↔ plan.target ≠ ".PHONY" := by
  rw [phony_to_makefile objects]
  by_cases taken : plan.target = ".PHONY"
  · simp [taken, someUnit]
  · simp [taken]

end Plan

namespace Configuration

/-- Test mode moves a unit, but each object is still compiled exactly once. -/
theorem objects_perm (configuration : Configuration) (catalog : Catalog)
    (platform : PlatformEntry) :
    ((configuration.units catalog platform).map (·.object)).Perm
      ((configuration.plainUnits catalog platform).map (·.object)) := by
  unfold units
  split
  · unfold substituteEntryPoint
    split
    · exact List.Perm.refl _
    · rename_i entry found
      -- The entry point goes to the end with another source, but takes its object along.
      obtain ⟨isEntry, before, after, cut, noneBefore⟩ := List.find?_eq_some_iff_append.1 found
      have erased : (before ++ entry :: after).eraseP (configuration.isEntryPoint catalog) =
          before ++ after := by
        rw [List.eraseP_append_right _ (by simpa using noneBefore),
          List.eraseP_cons_of_pos isEntry]
      have moved := (List.perm_append_singleton entry (before ++ after)).trans List.perm_middle.symm
      rw [cut, erased]
      simpa using moved.map (·.object)
  · exact List.Perm.refl _

theorem slash_mem_directory_front {directory : String} (nonempty : directory ≠ "") :
    '/' ∈ (directoryPrefix directory).toList := by
  unfold directoryPrefix
  split
  · rename_i ends
    rcases ends with empty | slashed
    · exact absurd empty nonempty
    · exact List.mem_of_getLast? slashed
  · simp

/-- A target is called by a plain name only when the build directory is the current one. -/
theorem target_eq_iff {configuration : Configuration} {name : String} (plain : '/' ∉ name.toList) :
    configuration.buildPrefix ++ configuration.output = name ↔
      configuration.buildDir = "" ∧ configuration.output = name := by
  constructor
  · intro same
    have noDirectory : configuration.buildDir = "" := by
      apply Decidable.byContradiction
      intro nonempty
      apply plain
      rw [← same, String.toList_append]
      exact List.mem_append_left _ (slash_mem_directory_front nonempty)
    refine ⟨noDirectory, ?_⟩
    rw [buildPrefix, noDirectory] at same
    rw [← same]
    rfl
  · rintro ⟨noDirectory, named⟩
    rw [buildPrefix, noDirectory, named]
    rfl

section Builtin

variable {configuration : Configuration} {settings : Settings}

theorem names_nodup_builtin {platform : Platform} {entry : PlatformEntry}
    (found : Catalog.builtin.platforms.find? platform.name = some entry) :
    (Catalog.builtin.common ++ entry.units).Nodup := by
  have allNodup : ∀ entry ∈ Catalog.builtin.platforms.values,
      (Catalog.builtin.common ++ entry.units).Nodup := by
    decide +kernel
  exact allNodup entry (NameMap.mem_values_of_find? found)

theorem objects_nodup_builtin {platform : Platform} {entry : PlatformEntry}
    (found : Catalog.builtin.platforms.find? platform.name = some entry) :
    ((configuration.units .builtin entry).map (·.object)).Nodup := by
  rw [(objects_perm configuration .builtin entry).nodup_iff, plainUnits, List.map_map]
  apply (names_nodup_builtin found).map
  intro left right same
  have letters := congrArg String.toList same
  apply String.toList_inj.1
  simpa [compilationUnit] using letters

theorem object_prefix {catalog : Catalog} {platform : PlatformEntry} {unit : CompilationUnit}
    (inside : unit ∈ configuration.units catalog platform) :
    ∃ name, unit.object = configuration.objectPrefix ++ name := by
  rcases mem_units inside with listed | ⟨entry, listed, rfl⟩
  · obtain ⟨name, -, rfl⟩ := List.mem_map.1 listed
    exact ⟨name, rfl⟩
  · obtain ⟨name, -, rfl⟩ := List.mem_map.1 listed
    exact ⟨name, rfl⟩

theorem object_ne {catalog : Catalog} {platform : PlatformEntry} {unit : CompilationUnit}
    (inside : unit ∈ configuration.units catalog platform) {name : String}
    (plain : '/' ∉ name.toList) : unit.object ≠ name := by
  obtain ⟨rest, objectEq⟩ := object_prefix inside
  intro same
  apply plain
  rw [← same, objectEq, objectPrefix]
  simp

theorem units_plan (catalog : Catalog) :
    (configuration.plan catalog settings).units = configuration.units catalog settings.platform :=
  rfl

theorem units_ne_nil {catalog : Catalog} (accepted : catalog.validate = .ok ())
    (platform : PlatformEntry) : configuration.units catalog platform ≠ [] := by
  intro nonePlanned
  have sameObjects := objects_perm configuration catalog platform
  rw [nonePlanned] at sameObjects
  have noneListed := List.map_eq_nil_iff.1 (List.nil_perm.1 sameObjects)
  have noNames := List.map_eq_nil_iff.1 noneListed
  exact (Catalog.validate_eq_ok_iff.1 accepted).1 (List.append_eq_nil_iff.1 noNames).1

theorem read_render_builtin (resolved : configuration.resolve .builtin = .ok settings) :
    Makefile.read (configuration.plan .builtin settings).render =
      (configuration.plan .builtin settings).toMakefile := by
  have legible := legible_plan Catalog.validate_builtin Catalog.clean_builtin resolved
  rw [Makefile.read, Plan.statements_render legible, Plan.makefile_statements]

/-- Under the built-in catalog the target always finds the link rule. The other goals find their own
rules as long as the target does not take their name: that of a fixed goal, for which the build
directory has to be empty, or that of an object. -/
theorem goals_builtin (resolved : configuration.resolve .builtin = .ok settings) :
    let plan := configuration.plan .builtin settings
    let makefile := Makefile.read plan.render
    makefile.rule? plan.target = some plan.linkRule ∧
    (makefile.rule? "clean" = some plan.cleanRule ↔
      ¬ (configuration.buildDir = "" ∧ configuration.output = "clean")) ∧
    (makefile.phony = ["clean"] ↔
      ¬ (configuration.buildDir = "" ∧ configuration.output = ".PHONY")) ∧
    ∀ unit ∈ plan.units,
      (makefile.rule? unit.object = some (Plan.compileRule unit) ↔ plan.target ≠ unit.object) := by
  intro plan makefile
  have content : makefile = plan.toMakefile := read_render_builtin resolved
  obtain ⟨-, compiler, entry, -, found, rfl⟩ := resolve_eq_ok_iff.1 resolved
  have distinct : (plan.units.map (·.object)).Nodup := objects_nodup_builtin found
  have someUnit : plan.units ≠ [] := units_ne_nil Catalog.validate_builtin entry
  have notPhony : ∀ unit ∈ plan.units, unit.object ≠ ".PHONY" :=
    fun unit inside => object_ne inside (by decide)
  have notClean : ∀ unit ∈ plan.units, unit.object ≠ "clean" :=
    fun unit inside => object_ne inside (by decide)
  have targetEq : plan.target = configuration.buildPrefix ++ configuration.output := rfl
  rw [content]
  refine ⟨plan.rule?_target, ?_, ?_, ?_⟩
  · rw [plan.rule?_clean_iff, targetEq, ne_eq, target_eq_iff (by decide)]
  · rw [Plan.phony_iff notPhony someUnit, targetEq, ne_eq, target_eq_iff (by decide)]
  · intro unit inside
    exact Plan.rule?_object_iff distinct inside (notPhony unit inside) (notClean unit inside)

end Builtin

/-- An output called `clean` leaves the cleaning rule alone when there is a build directory. -/
theorem goals_builtin_in_directory :
    ∃ settings, ({ output := "clean", buildDir := "out" } : Configuration).resolve .builtin =
        .ok settings ∧
      let plan := ({ output := "clean", buildDir := "out" } : Configuration).plan .builtin settings
      (Makefile.read plan.render).rule? "clean" = some plan.cleanRule := by
  obtain ⟨settings, resolved⟩ :=
    exists_settings_builtin { output := "clean", buildDir := "out" } (by decide)
  have goals := goals_builtin resolved
  exact ⟨settings, resolved, goals.2.1.2 (by decide)⟩

/-- Without a build directory an output can take the name of a fixed goal, and below `obj` that of
an object. The link rule is found in place of the rule that is looked for. -/
theorem goals_taken :
    (∃ configuration settings,
      ofTokens ["-builddir", "", "-o", "clean"] = .ok configuration ∧
      configuration.resolve .builtin = .ok settings ∧
      (Makefile.read (configuration.plan .builtin settings).render).rule? "clean" ≠
        some (configuration.plan .builtin settings).cleanRule) ∧
    (∃ configuration settings,
      ofTokens ["-builddir", "", "-o", ".PHONY"] = .ok configuration ∧
      configuration.resolve .builtin = .ok settings ∧
      (Makefile.read (configuration.plan .builtin settings).render).phony ≠ ["clean"]) ∧
    ∃ configuration settings,
      ofTokens ["-o", "obj/main.o"] = .ok configuration ∧
      configuration.resolve .builtin = .ok settings ∧
      ∃ unit ∈ (configuration.plan .builtin settings).units,
        (Makefile.read (configuration.plan .builtin settings).render).rule? unit.object ≠
          some (Plan.compileRule unit) := by
  refine ⟨?_, ?_, ?_⟩
  · obtain ⟨settings, resolved⟩ :=
      exists_settings_builtin { buildDir := "", output := "clean" } (by decide)
    refine ⟨{ buildDir := "", output := "clean" }, settings, rfl, resolved, ?_⟩
    rw [read_render_builtin resolved]
    intro found
    exact (Plan.rule?_clean_iff _).1 found rfl
  · obtain ⟨settings, resolved⟩ :=
      exists_settings_builtin { buildDir := "", output := ".PHONY" } (by decide)
    refine ⟨{ buildDir := "", output := ".PHONY" }, settings, rfl, resolved, ?_⟩
    rw [read_render_builtin resolved]
    intro phony
    refine (Plan.phony_iff ?_ ?_).1 phony rfl
    · intro unit inside
      rw [units_plan] at inside
      exact object_ne inside (by decide)
    · rw [units_plan]
      exact units_ne_nil Catalog.validate_builtin settings.platform
  · obtain ⟨settings, resolved⟩ := exists_settings_builtin { output := "obj/main.o" } (by decide)
    refine ⟨{ output := "obj/main.o" }, settings, rfl, resolved, ?_⟩
    have inside : "main.o" ∈ Catalog.builtin.common ++ settings.platform.units :=
      List.mem_append_left _ (by decide)
    refine ⟨_, List.mem_map.2 ⟨"main.o", inside, rfl⟩, ?_⟩
    rw [read_render_builtin resolved]
    intro found
    have taken := Plan.rule?_target
      (({ output := "obj/main.o" } : Configuration).plan .builtin settings)
    exact Plan.link_rule_ne_compile_rule _ _ (Option.some.inj (taken.symm.trans found))

end Configuration

end MakePlan
