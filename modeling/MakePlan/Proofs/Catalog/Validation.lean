import MakePlan.Catalog.Builtin
import MakePlan.Catalog.Loading
import MakePlan.Proofs.Settings

/-!
# What validation accepts

A catalog is accepted when it has common units and each of its units is a stem in front of the
object suffix, those of the platforms that are not built included.
-/

namespace MakePlan

set_option autoImplicit false

theorem mem_of_lookup_eq_some {α : Type} {name : String} {value : α}
    {entries : List (String × α)} (found : entries.lookup name = some value) :
    (name, value) ∈ entries := by
  induction entries with
  | nil => simp at found
  | cons entry rest induction =>
      rw [lookup_entry] at found
      split at found
      · rename_i same
        rw [Option.some.injEq] at found
        rw [same, ← found]
        exact List.mem_cons_self
      · exact List.mem_cons_of_mem _ (induction found)

theorem NameMap.mem_values_of_find? {α : Type} {map : NameMap α} {name : String} {value : α}
    (found : map.find? name = some value) : value ∈ map.values :=
  List.mem_map.2 ⟨(name, value), mem_of_lookup_eq_some found, rfl⟩

namespace Catalog

theorem well_named_iff {catalog : Catalog} {unit : String} :
    catalog.wellNamed unit = true ↔ ∃ stem, stem ≠ "" ∧ unit = stem ++ catalog.objectSuffix := by
  rw [wellNamed, Option.any_eq_true]
  constructor
  · rintro ⟨stem, found, named⟩
    exact ⟨stem, by simpa using named, Text.stem?_eq_some_iff.1 found⟩
  · rintro ⟨stem, named, joined⟩
    exact ⟨stem, Text.stem?_eq_some_iff.2 joined, by simpa using named⟩

theorem validate_eq_ok_iff {catalog : Catalog} :
    catalog.validate = .ok () ↔
      catalog.common ≠ [] ∧ ∀ unit ∈ catalog.allUnits, catalog.wellNamed unit = true := by
  by_cases empty : catalog.common = []
  · simp [validate, empty]
  · cases found : catalog.misnamed? with
    | some unit =>
        have misnamed := List.find?_some found
        have inside := List.mem_of_find?_eq_some found
        simp only [validate, empty, if_false, found, reduceCtorEq, false_iff, not_and]
        intro _ allNamed
        rw [allNamed unit inside] at misnamed
        contradiction
    | none =>
        have allNamed := List.find?_eq_none.1 found
        simp only [validate, empty, if_false, found, ne_eq, not_false_eq_true, true_and, true_iff]
        intro unit inside
        simpa using allNamed unit inside

theorem validate_of_parse {document : String} {catalog : Catalog}
    (parsed : Catalog.parse document = .ok catalog) : catalog.validate = .ok () := by
  obtain ⟨decoded, -, rest⟩ := Result.bind_eq_ok.1 parsed
  obtain ⟨_, passed, same⟩ := Result.bind_eq_ok.1 rest
  rw [Except.ok.injEq] at same
  rw [← same]
  exact passed

theorem validate_builtin : builtin.validate = .ok () := by
  rw [validate, if_neg (by decide), misnamed?_builtin]

theorem compiler_builtin (compiler : Compiler) :
    builtin.compilers.find? compiler.name = some compiler.name := by
  cases compiler <;> decide +kernel

theorem exists_platform_builtin (platform : Platform) :
    ∃ entry, builtin.platforms.find? platform.name = some entry := by
  apply Option.isSome_iff_exists.1
  cases platform <;> decide +kernel

end Catalog

/-- Where compilers and platforms are the built-in ones, only the free text can be refused. -/
theorem Configuration.exists_settings_of_tables (configuration : Configuration) {catalog : Catalog}
    (compilers : catalog.compilers = Catalog.builtin.compilers)
    (platforms : catalog.platforms = Catalog.builtin.platforms)
    (safe : SafeText configuration.output ∧ SafeText configuration.sourceDir ∧
      SafeText configuration.buildDir ∧ configuration.output ≠ "") :
    ∃ settings, configuration.resolve catalog = .ok settings := by
  obtain ⟨entry, found⟩ := Catalog.exists_platform_builtin configuration.platform
  have compilerFound := Catalog.compiler_builtin configuration.compiler
  rw [← platforms] at found
  rw [← compilers] at compilerFound
  exact ⟨_, resolve_eq_ok_iff.2 ⟨check_slots_eq_ok_iff.2 safe, _, entry, compilerFound, found, rfl⟩⟩

theorem Configuration.exists_settings_builtin (configuration : Configuration)
    (safe : SafeText configuration.output ∧ SafeText configuration.sourceDir ∧
      SafeText configuration.buildDir ∧ configuration.output ≠ "") :
    ∃ settings, configuration.resolve .builtin = .ok settings :=
  configuration.exists_settings_of_tables rfl rfl safe

end MakePlan
