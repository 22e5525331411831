import MakePlan.Plan
import MakePlan.Proofs.Catalog.Validation
import MakePlan.Proofs.Text.ByteOrder
import MakePlan.Text.Lines

/-!
# The first misnamed unit

Validation goes through the common units and then through those of the platforms, in the order of
their names, and reports the first unit without a stem. Where there is none, a plan has a stem for
every unit that it compiles.
-/

namespace MakePlan

set_option autoImplicit false

/-- The unit is a stem that is not empty, with the suffix after it. -/
def HasStem (suffix unit : String) : Prop := ∃ stem, stem ≠ "" ∧ unit = stem ++ suffix

/-- A unit has a stem when it ends in the suffix and takes more bytes. -/
theorem has_stem_iff {suffix unit : String} :
    HasStem suffix unit ↔
      suffix.utf8ByteSize < unit.utf8ByteSize ∧ suffix.toList <:+ unit.toList := by
  constructor
  · rintro ⟨stem, named, rfl⟩
    have stemSize : stem.utf8ByteSize ≠ 0 := fun empty =>
      named (String.utf8ByteSize_eq_zero_iff.1 empty)
    rw [String.utf8ByteSize_append, String.toList_append]
    exact ⟨by omega, List.suffix_append _ _⟩
  · rintro ⟨longer, front, joined⟩
    have unitEq : unit = String.ofList front ++ suffix := by
      apply String.toList_inj.1
      rw [String.toList_append, String.toList_ofList, joined]
    refine ⟨String.ofList front, ?_, unitEq⟩
    intro empty
    rw [unitEq, empty, String.empty_append] at longer
    exact Nat.lt_irrefl _ longer

def FirstMisnamed (suffix : String) (units : List String) (unit : String) : Prop :=
  ∃ before after, units = before ++ unit :: after ∧
    (∀ earlier ∈ before, HasStem suffix earlier) ∧ ¬ HasStem suffix unit

theorem exists_stems {suffix : String} {units : List String}
    (named : ∀ unit ∈ units, HasStem suffix unit) :
    ∃ stems : List String, "" ∉ stems ∧ units = stems.map (· ++ suffix) := by
  induction units with
  | nil => exact ⟨[], by simp, rfl⟩
  | cons unit units induction =>
      obtain ⟨first, others⟩ := List.forall_mem_cons.1 named
      obtain ⟨stem, stemNamed, rfl⟩ := first
      obtain ⟨stems, stemsNamed, rfl⟩ := induction others
      refine ⟨stem :: stems, ?_, rfl⟩
      simp [Ne.symm stemNamed, stemsNamed]

theorem NameMap.bytes_increasing {α : Type} (map : NameMap α) :
    map.entries.Pairwise fun earlier later =>
      earlier.1.toUTF8.data.toList < later.1.toUTF8.data.toList :=
  map.increasing.imp fun less => Text.to_utf8_lt_iff.2 less

namespace Catalog

variable {catalog : Catalog}

theorem all_units_eq (catalog : Catalog) :
    catalog.allUnits =
      catalog.common ++ catalog.platforms.entries.flatMap fun entry => entry.2.units := by
  rw [allUnits, NameMap.values, List.flatMap_map]

theorem misnamed?_eq_some_iff {unit : String} :
    catalog.misnamed? = some unit ↔
      FirstMisnamed catalog.objectSuffix catalog.allUnits unit := by
  have misnamedIff : ∀ name, (!catalog.wellNamed name) = true ↔
      ¬ HasStem catalog.objectSuffix name := by
    intro name
    rw [HasStem, ← well_named_iff]
    simp
  rw [misnamed?, List.find?_eq_some_iff_append, misnamedIff, FirstMisnamed]
  constructor
  · rintro ⟨misnamed, before, after, unitsEq, earlierNamed⟩
    refine ⟨before, after, unitsEq, fun earlier inside => ?_, misnamed⟩
    exact well_named_iff.1 (by simpa using earlierNamed earlier inside)
  · rintro ⟨before, after, unitsEq, earlierNamed, misnamed⟩
    refine ⟨misnamed, before, after, unitsEq, fun earlier inside => ?_⟩
    simpa using well_named_iff.2 (earlierNamed earlier inside)

theorem validate_eq_ok_iff_stems (nonempty : catalog.common ≠ []) :
    catalog.validate = .ok () ↔ ∀ unit ∈ catalog.allUnits, HasStem catalog.objectSuffix unit := by
  rw [validate_eq_ok_iff, and_iff_right nonempty]
  exact forall₂_congr fun _ _ => well_named_iff

theorem validate_eq_error_iff (nonempty : catalog.common ≠ []) {failure : Failure} :
    catalog.validate = .error failure ↔
      ∃ unit, FirstMisnamed catalog.objectSuffix catalog.allUnits unit ∧
        failure = .invalidUnit unit catalog.objectSuffix := by
  simp only [← misnamed?_eq_some_iff]
  cases found : catalog.misnamed? with
  | none => simp [validate, nonempty, found]
  | some unit => simp [validate, nonempty, found, eq_comm]

theorem validate_eq_empty_catalog_iff :
    catalog.validate = .error .emptyCatalog ↔ catalog.common = [] := by
  by_cases empty : catalog.common = []
  · simp [validate, empty]
  · rw [validate_eq_error_iff empty]
    simp [empty]

/-- A decoded catalog is used as it is, or not at all. -/
theorem parse_of_decode {document : String} (decoded : decode document = .ok catalog) :
    parse document = catalog.validate.map fun _ => catalog := by
  rw [parse, decoded]
  change (catalog.validate >>= fun _ => .ok catalog) = _
  cases catalog.validate with
  | error failure => rfl
  | ok _ => rfl

end Catalog

namespace Configuration

/-- The units of a plan come from the stems of the names, in test mode before one of them gets the
local source. -/
theorem units_of_stems (configuration : Configuration) {catalog : Catalog}
    (accepted : catalog.validate = .ok ()) {platform : PlatformEntry}
    (listed : platform ∈ catalog.platforms.values) :
    ∃ stems : List String, "" ∉ stems ∧
      catalog.common ++ platform.units = stems.map (· ++ catalog.objectSuffix) ∧
      configuration.plainUnits catalog platform =
        stems.map fun stem =>
          { object := configuration.objectPrefix ++ (stem ++ catalog.objectSuffix)
            source := configuration.sourcePrefix ++ stem ++ catalog.sourceSuffix } := by
  have named : ∀ unit ∈ catalog.common ++ platform.units, HasStem catalog.objectSuffix unit := by
    intro unit inside
    have nonempty := (Catalog.validate_eq_ok_iff.1 accepted).1
    apply (Catalog.validate_eq_ok_iff_stems nonempty).1 accepted
    rcases List.mem_append.1 inside with common | extra
    · exact List.mem_append_left _ common
    · exact List.mem_append_right _ (List.mem_flatMap.2 ⟨platform, listed, extra⟩)
  obtain ⟨stems, stemsNamed, names⟩ := exists_stems named
  refine ⟨stems, stemsNamed, names, ?_⟩
  rw [plainUnits, names, List.map_map]
  exact List.map_congr_left fun stem _ => compilation_unit_stem configuration catalog stem

end Configuration

/-- A document that decodes to a catalog is refused for a lack of common units before anything else,
and then for the first misnamed unit, whatever platform lists it. Without one the catalog is
accepted as it is, and every plan for it strips the suffix off every unit. -/
theorem Catalog.parse_first_misnamed {document : String} {catalog : Catalog}
    (decoded : decode document = .ok catalog) :
    let suffix := catalog.objectSuffix
    let units :=
      catalog.common ++ catalog.platforms.entries.flatMap fun entry => entry.2.units
    (catalog.platforms.entries.Pairwise fun earlier later =>
        earlier.1.toUTF8.data.toList < later.1.toUTF8.data.toList) ∧
      (parse document = .error .emptyCatalog ↔ catalog.common = []) ∧
      (catalog.common ≠ [] →
        (∀ accepted, parse document = .ok accepted ↔
            accepted = catalog ∧ ∀ unit ∈ units, HasStem suffix unit) ∧
        ∀ failure, parse document = .error failure ↔
            ∃ unit, FirstMisnamed suffix units unit ∧ failure = .invalidUnit unit suffix) ∧
      (parse document = .ok catalog →
        ∀ (configuration : Configuration) (settings : Settings),
          settings.platform ∈ catalog.platforms.values →
            ∃ stems : List String, "" ∉ stems ∧
              catalog.common ++ settings.platform.units = stems.map (· ++ suffix) ∧
              let planned := stems.map fun stem =>
                { object := configuration.objectPrefix ++ (stem ++ suffix)
                  source := configuration.sourcePrefix ++ stem ++ catalog.sourceSuffix }
              (configuration.plan catalog settings).units =
                if configuration.testMode then configuration.substituteEntryPoint catalog planned
                else planned) := by
  intro suffix units
  have allUnitsEq : catalog.allUnits = units := catalog.all_units_eq
  have parsed : parse document = catalog.validate.map fun _ => catalog := parse_of_decode decoded
  refine ⟨catalog.platforms.bytes_increasing, ?_, fun nonempty => ⟨?_, ?_⟩, ?_⟩
  · rw [parsed, Result.map_eq_error]
    exact validate_eq_empty_catalog_iff
  · intro accepted
    rw [parsed, Result.map_eq_ok, ← allUnitsEq, ← validate_eq_ok_iff_stems nonempty]
    constructor
    · rintro ⟨_, passed, same⟩
      exact ⟨same.symm, passed⟩
    · rintro ⟨same, passed⟩
      exact ⟨(), passed, same.symm⟩
  · intro failure
    rw [parsed, Result.map_eq_error, ← allUnitsEq]
    exact validate_eq_error_iff nonempty
  · intro accepted configuration settings listed
    obtain ⟨stems, stemsNamed, names, planned⟩ :=
      configuration.units_of_stems (validate_of_parse accepted) listed
    refine ⟨stems, stemsNamed, names, ?_⟩
    rw [← planned]
    rfl

/-- Two platforms out of order, of which the second has a unit without the suffix, and the first one
that is nothing but the suffix. -/
def Catalog.misnamedDocument : String :=
  Text.block
    [ "entry_point = ''", "local_entry_point = ''", "source_suffix = ''", "object_suffix = 'é'",
      "headers = []", "common = ['aé']",
      "[toolchain]", "cflags = ''", "debug_cflags = ''", "big_endian_define = ''",
      "release_ldflags = ''", "debug_ldflags = ''", "ldlibs = ''",
      "[compilers]", "[platforms.b]", "units = ['é']", "[platforms.a]", "units = ['éé', 'c']" ]

theorem Catalog.decode_misnamed_document :
    ∃ catalog, decode misnamedDocument = .ok catalog ∧
      catalog.objectSuffix = "é" ∧ catalog.common = ["aé"] ∧
        catalog.platforms.entries.map (fun entry => entry.2.units) = [["éé", "c"], ["é"]] := by
  have checked :
      (decode misnamedDocument).toOption.any (fun catalog =>
        catalog.objectSuffix = "é" ∧ catalog.common = ["aé"] ∧
          catalog.platforms.entries.map (fun entry => entry.2.units) = [["éé", "c"], ["é"]]) =
        true := by
    rw [decode, Toml.parse?, misnamedDocument, Text.block, String.toList_ofList]
    decide +kernel
  generalize decode misnamedDocument = decoded at checked
  cases decoded with
  | error failure => contradiction
  | ok catalog => exact ⟨catalog, rfl, of_decide_eq_true checked⟩

theorem Catalog.parse_first_misnamed_platform :
    (∃ catalog, decode misnamedDocument = .ok catalog ∧ catalog.common ≠ []) ∧
      parse misnamedDocument = .error (.invalidUnit "c" "é") := by
  obtain ⟨catalog, decoded, suffix, common, units⟩ := decode_misnamed_document
  have nonempty : catalog.common ≠ [] := by simp [common]
  refine ⟨⟨catalog, decoded, nonempty⟩, ?_⟩
  refine (((parse_first_misnamed decoded).2.2.1 nonempty).2 _).2 ⟨"c", ?_, by rw [suffix]⟩
  refine ⟨["aé", "éé"], ["é"], ?_, ?_, ?_⟩
  · rw [List.flatMap_def, units, common]
    rfl
  · rw [suffix]
    have first : HasStem "é" "aé" := ⟨"a", by decide, rfl⟩
    have second : HasStem "é" "éé" := ⟨"é", by decide, rfl⟩
    exact List.forall_mem_cons.2 ⟨first, List.forall_mem_cons.2 ⟨second, by simp⟩⟩
  · rw [suffix, has_stem_iff]
    decide

end MakePlan
