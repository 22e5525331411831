import MakePlan.Configuration.Tokens
import MakePlan.Proofs.Catalog.Misnamed
import MakePlan.Proofs.Plan.TestMode

/-!
# What an accepted configuration asks for

The Makefile of an accepted configuration, read back, has the content that the catalog's own names
and texts ask for: the words of its flags, and a rule for each of its units by the unit's stem.
-/

namespace MakePlan

set_option autoImplicit false

open Text

theorem words_of_intercalate (texts : List String) :
    wordsOf (" ".intercalate texts) = texts.flatMap wordsOf := by
  induction texts with
  | nil => rfl
  | cons first others induction =>
      cases others with
      | nil => simp
      | cons second others =>
          have joined : (first ++ " " ++ " ".intercalate (second :: others)).toList =
              first.toList ++ ' ' :: (" ".intercalate (second :: others)).toList := by
            simp
          rw [String.intercalate_cons_cons, wordsOf, joined, words_append_blank is_blank_space,
            List.map_append, List.flatMap_cons, ← induction]
          rfl

namespace Configuration

/-- The words of the compiler flags, source by source. -/
def flagWords (configuration : Configuration) (toolchain : Toolchain) (defines : List String) :
    List String :=
  (if configuration.profile = .debug then wordsOf toolchain.debugCflags else []) ++
    wordsOf toolchain.cflags ++ defines.flatMap wordsOf ++
    (if configuration.byteOrder = .big then wordsOf toolchain.bigEndianDefine else [])

/-- The object and the source of each stem, below the directories for both. In test mode the first
entry point comes last, with its own object and the local source. -/
def wantedUnits (configuration : Configuration) (catalog : Catalog) (sources build : String)
    (stems : List String) : List CompilationUnit :=
  let object (stem : String) := build ++ "obj/" ++ stem ++ catalog.objectSuffix
  let compiled (stem : String) : CompilationUnit :=
    { object := object stem, source := sources ++ stem ++ catalog.sourceSuffix }
  if configuration.testMode = true ∧ catalog.entryPoint ∈ stems then
    (stems.erase catalog.entryPoint).map compiled ++
      [{ object := object catalog.entryPoint, source := catalog.localEntryPoint }]
  else stems.map compiled

/-- The content that a configuration asks for, from the words of the catalog's texts and the stems
of its units. -/
def wanted (configuration : Configuration) (catalog : Catalog) (compiler : String)
    (defines : List String) (sources build : String) (stems : List String) : Makefile where
  assignments :=
    let ldflags :=
      if configuration.profile = .debug then catalog.toolchain.debugLdflags
      else catalog.toolchain.releaseLdflags
    [ ⟨"CC", " ".intercalate (wordsOf compiler)⟩,
      ⟨"CFLAGS", " ".intercalate (configuration.flagWords catalog.toolchain defines)⟩,
      ⟨"LDFLAGS", " ".intercalate (wordsOf ldflags)⟩,
      ⟨"LDLIBS", " ".intercalate (wordsOf catalog.toolchain.ldlibs)⟩,
      ⟨"DEPS", " ".intercalate (catalog.headers.map (sources ++ ·))⟩ ]
  rules :=
    let units := configuration.wantedUnits catalog sources build stems
    { targets := [build ++ configuration.output]
      prerequisites := units.map (·.object)
      recipe := ["$(CC) -o $@ $^ $(LDLIBS) $(LDFLAGS)"] } ::
    { targets := [".PHONY"], prerequisites := ["clean"], recipe := [] } ::
    { targets := ["clean"]
      prerequisites := []
      recipe := if build = "" then ["@ rm -fR"] else ["@ rm -fR " ++ build] } ::
    units.map fun unit =>
      { targets := [unit.object]
        prerequisites := [unit.source, "$(DEPS)"]
        recipe := ["@mkdir -p $(@D)", "$(CC) -c -o $@ $< $(CFLAGS)"] }

variable {configuration : Configuration} {catalog : Catalog} {platform : PlatformEntry}
  {stems : List String}

theorem words_of_cflags (configuration : Configuration) (toolchain : Toolchain)
    (defines : List String) :
    wordsOf (" ".intercalate (configuration.cflags toolchain defines)) =
      configuration.flagWords toolchain defines := by
  rw [words_of_intercalate, cflags, flagWords]
  simp only [List.flatMap_append, List.flatMap_singleton]
  split <;> split <;> simp

theorem ldflags_by_profile (configuration : Configuration) (toolchain : Toolchain) :
    configuration.ldflags toolchain =
      if configuration.profile = .debug then toolchain.debugLdflags
      else toolchain.releaseLdflags := by
  unfold ldflags
  cases configuration.profile <;> rfl

theorem clean_recipe (directory : String) :
    ["@ rm -fR" ++ if directory = "" then "" else " " ++ directory] =
      if directory = "" then ["@ rm -fR"] else ["@ rm -fR " ++ directory] := by
  split
  · rfl
  · rw [← String.append_assoc]
    rfl

theorem map_compilation_unit_stems (configuration : Configuration) (catalog : Catalog)
    (stems : List String) :
    (stems.map (· ++ catalog.objectSuffix)).map (configuration.compilationUnit catalog) =
      stems.map fun stem =>
        { object := configuration.buildPrefix ++ "obj/" ++ stem ++ catalog.objectSuffix
          source := configuration.sourcePrefix ++ stem ++ catalog.sourceSuffix } := by
  rw [List.map_map]
  apply List.map_congr_left
  intro stem _
  rw [Function.comp, compilation_unit_stem, ← String.append_assoc]
  rfl

theorem entry_name_mem_iff :
    catalog.entryName ∈ stems.map (· ++ catalog.objectSuffix) ↔ catalog.entryPoint ∈ stems := by
  rw [List.mem_map]
  simp only [Catalog.entryName, String.append_left_inj, exists_eq_right]

theorem units_eq_wanted (accepted : catalog.validate = .ok ())
    (listed : platform ∈ catalog.platforms.values)
    (names : catalog.common ++ platform.units = stems.map (· ++ catalog.objectSuffix)) :
    configuration.units catalog platform =
      configuration.wantedUnits catalog configuration.sourcePrefix configuration.buildPrefix
        stems := by
  have known : ∀ name ∈ stems.map (· ++ catalog.objectSuffix), name ∈ catalog.allUnits := by
    rw [← names]
    exact fun name inside => mem_all_units listed inside
  unfold units wantedUnits plainUnits
  rw [names]
  by_cases testing : configuration.testMode = true
  · by_cases present : catalog.entryPoint ∈ stems
    · obtain ⟨front, back, rfl, absent⟩ := List.eq_append_cons_of_mem present
      have absentName : catalog.entryName ∉ front.map (· ++ catalog.objectSuffix) :=
        fun inside => absent (entry_name_mem_iff.1 inside)
      have erased : (front ++ catalog.entryPoint :: back).erase catalog.entryPoint =
          front ++ back := by
        rw [List.erase_append_right _ absent, List.erase_cons_head]
      rw [if_pos testing, if_pos ⟨testing, present⟩, erased, ← map_compilation_unit_stems]
      rw [List.map_append, List.map_cons] at known ⊢
      rw [← Catalog.entryName, substitute_entry_point_of_first accepted absentName known,
        ← List.map_append, Catalog.entryName, compilation_unit_stem, ← String.append_assoc]
      rfl
    · have absentName := mt entry_name_mem_iff.1 present
      rw [if_pos testing, if_neg fun both => present both.2,
        substitute_entry_point_of_absent accepted known absentName, map_compilation_unit_stems]
  · rw [if_neg testing, if_neg fun both => testing both.1, map_compilation_unit_stems]

theorem to_makefile_plan (accepted : catalog.validate = .ok ())
    (listed : platform ∈ catalog.platforms.values)
    (names : catalog.common ++ platform.units = stems.map (· ++ catalog.objectSuffix))
    (compiler : String) :
    (configuration.plan catalog (configuration.settingsWith catalog compiler platform)).toMakefile =
      configuration.wanted catalog compiler platform.defines configuration.sourcePrefix
        configuration.buildPrefix stems := by
  have flags := words_of_cflags configuration catalog.toolchain platform.defines
  have clean := clean_recipe configuration.buildPrefix
  have units : configuration.units catalog platform = _ :=
    units_eq_wanted accepted listed names
  rw [wanted, ← flags, ← clean, ← ldflags_by_profile, ← units]
  rfl

/-- Whatever free text a configuration holds, if it resolves under a clean catalog, reading its
Makefile gives exactly the content that the catalog's texts and the stems of its units ask for. -/
theorem read_render_plan (accepted : catalog.validate = .ok ()) (clean : catalog.Clean)
    {settings : Settings} (resolved : configuration.resolve catalog = .ok settings) :
    ∃ compiler platform sources build stems,
      catalog.compilers.find? configuration.compiler.name = some compiler ∧
      catalog.platforms.find? configuration.platform.name = some platform ∧
      FrontOf configuration.sourceDir sources ∧
      FrontOf configuration.buildDir build ∧
      catalog.common ++ platform.units = stems.map (· ++ catalog.objectSuffix) ∧
      "" ∉ stems ∧
      Makefile.read (configuration.plan catalog settings).render =
        configuration.wanted catalog compiler platform.defines sources build stems := by
  have legible := legible_plan accepted clean resolved
  obtain ⟨-, compiler, platform, compilerFound, platformFound, rfl⟩ :=
    resolve_eq_ok_iff.1 resolved
  have listed := NameMap.mem_values_of_find? platformFound
  obtain ⟨stems, named, names, -⟩ := configuration.units_of_stems accepted listed
  refine ⟨compiler, platform, _, _, stems, compilerFound, platformFound,
    front_of_directory _, front_of_directory _, names, named, ?_⟩
  rw [Makefile.read, Plan.statements_render legible, Plan.makefile_statements]
  exact to_makefile_plan accepted listed names compiler

end Configuration

def Catalog.compact : Catalog :=
  { builtin with
    headers := ["log.h", "util.h"]
    common := ["main.o", "log.o"]
    platforms :=
      .ofList [("freebsd", { units := ["net/bsd.o"], defines := ["-DX=1  -DY", "-DZ"] })] }

/-- A debug build of the tests for a big-endian machine, with odd but safe names. -/
def Configuration.unusual : Configuration where
  profile := .debug
  platform := .freebsd
  byteOrder := .big
  output := "+?"
  sourceDir := ""
  buildDir := "é"
  testMode := true

theorem Configuration.read_render_plan_unusual :
    ofTokens
        [ "-freebsd", "-debug", "-be", "-test", "-o", "+?", "-srcdir", "", "-builddir", "é" ] =
      .ok unusual ∧
    Catalog.compact.validate = .ok () ∧ Catalog.compact.Clean ∧
    ∃ settings, unusual.resolve .compact = .ok settings ∧
      let compile := ["@mkdir -p $(@D)", "$(CC) -c -o $@ $< $(CFLAGS)"]
      Makefile.read (unusual.plan .compact settings).render =
        { assignments :=
            [ ⟨"CC", "clang"⟩,
              ⟨"CFLAGS", "-g -std=c99 -Wall -Wno-pointer-sign -D_XOPEN_SOURCE=700 -DX=1 -DY -DZ "
                ++ "-D__BIG_ENDIAN__"⟩,
              ⟨"LDFLAGS", "-g"⟩,
              ⟨"LDLIBS", "-lc -lpthread"⟩,
              ⟨"DEPS", "log.h util.h"⟩ ]
          rules :=
            [ ⟨["é/+?"], ["é/obj/log.o", "é/obj/net/bsd.o", "é/obj/main.o"],
                ["$(CC) -o $@ $^ $(LDLIBS) $(LDFLAGS)"]⟩,
              ⟨[".PHONY"], ["clean"], []⟩,
              ⟨["clean"], [], ["@ rm -fR é/"]⟩,
              ⟨["é/obj/log.o"], ["log.c", "$(DEPS)"], compile⟩,
              ⟨["é/obj/net/bsd.o"], ["net/bsd.c", "$(DEPS)"], compile⟩,
              ⟨["é/obj/main.o"], ["main.c", "$(DEPS)"], compile⟩ ] } := by
  have accepted : Catalog.compact.validate = .ok () :=
    Catalog.validate_eq_ok_iff.2 ⟨by decide, by decide +kernel⟩
  have clean : Catalog.compact.Clean := by constructor <;> decide +kernel
  have passed : unusual.checkSlots = .ok () := check_slots_eq_ok_iff.2 (by decide)
  let entry : PlatformEntry := { units := ["net/bsd.o"], defines := ["-DX=1  -DY", "-DZ"] }
  have entryFound : Catalog.compact.platforms.find? "freebsd" = some entry := by decide +kernel
  have resolved : unusual.resolve .compact = .ok (unusual.settingsWith .compact "clang" entry) :=
    resolve_eq_ok_iff.2 ⟨passed, "clang", entry, Catalog.compiler_builtin .clang, entryFound, rfl⟩
  refine ⟨rfl, accepted, clean, _, resolved, ?_⟩
  obtain ⟨compiler, platform, sources, build, stems, compilerFound, platformFound, sourceFront,
    buildFront, names, -, content⟩ := read_render_plan accepted clean resolved
  obtain rfl : "clang" = compiler :=
    Option.some.inj ((Catalog.compiler_builtin .clang).symm.trans compilerFound)
  obtain rfl : entry = platform := Option.some.inj (entryFound.symm.trans platformFound)
  obtain rfl : ["main", "log", "net/bsd"] = stems := by
    have stemsOf : Catalog.compact.common ++ entry.units =
        ["main", "log", "net/bsd"].map (· ++ Catalog.compact.objectSuffix) := by decide
    exact List.map_injective_iff.2 (fun _ _ => (String.append_left_inj _).1)
      (stemsOf.symm.trans names)
  obtain rfl : "" = sources := (sourceFront.kept.resolve_right fun added => added.1 rfl).symm
  obtain rfl : "é/" = build := by
    rcases buildFront.kept with rfl | ⟨-, -, added⟩
    · exact absurd buildFront.joinable (by decide)
    · exact added.symm
  rw [content]
  decide +kernel

end MakePlan
