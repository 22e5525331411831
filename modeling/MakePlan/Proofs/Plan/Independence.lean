import MakePlan.Makefile.Layout
import MakePlan.Proofs.Catalog.Validation
import MakePlan.Proofs.Configuration.Setting

/-!
# What a Makefile does not depend on

Compiler, profile and byte order show in the first three assignments of a Makefile and nowhere else.
A slash at the end of a directory does not show at all, because every path is put together from the
directory with its slash.
-/

namespace MakePlan

set_option autoImplicit false

/-- The second directory is the first with the slash that was missing. -/
def Slashed (directory slashed : String) : Prop :=
  directory ≠ "" ∧ directory.toList.getLast? ≠ some '/' ∧ slashed = directory ++ "/"

/-- The two directories are equal, or one lacks the slash that the other ends in. -/
def SameDirectory (left right : String) : Prop :=
  left = right ∨ Slashed left right ∨ Slashed right left

theorem directory_prefix_of_joined {directory : String}
    (joined : directory = "" ∨ directory.toList.getLast? = some '/') :
    directoryPrefix directory = directory := if_pos joined

theorem directory_prefix_of_unjoined {directory : String}
    (unjoined : ¬ (directory = "" ∨ directory.toList.getLast? = some '/')) :
    directoryPrefix directory = directory ++ "/" := if_neg unjoined

theorem Slashed.directory_prefix_eq {directory slashed : String}
    (added : Slashed directory slashed) : directoryPrefix directory = directoryPrefix slashed := by
  obtain ⟨nonempty, noSlash, rfl⟩ := added
  have joined : (directory ++ "/").toList.getLast? = some '/' := by simp
  rw [directory_prefix_of_unjoined (not_or.2 ⟨nonempty, noSlash⟩),
    directory_prefix_of_joined (.inr joined)]

/-- Directories stand alike in front of a name exactly when they differ at most by a slash. -/
theorem directory_prefix_eq_iff {left right : String} :
    directoryPrefix left = directoryPrefix right ↔ SameDirectory left right := by
  constructor
  · intro same
    by_cases leftJoined : left = "" ∨ left.toList.getLast? = some '/'
    · by_cases rightJoined : right = "" ∨ right.toList.getLast? = some '/'
      · rw [directory_prefix_of_joined leftJoined, directory_prefix_of_joined rightJoined] at same
        exact .inl same
      · rw [directory_prefix_of_joined leftJoined,
          directory_prefix_of_unjoined rightJoined] at same
        exact .inr (.inr ⟨(not_or.1 rightJoined).1, (not_or.1 rightJoined).2, same⟩)
    · by_cases rightJoined : right = "" ∨ right.toList.getLast? = some '/'
      · rw [directory_prefix_of_unjoined leftJoined,
          directory_prefix_of_joined rightJoined] at same
        exact .inr (.inl ⟨(not_or.1 leftJoined).1, (not_or.1 leftJoined).2, same.symm⟩)
      · rw [directory_prefix_of_unjoined leftJoined,
          directory_prefix_of_unjoined rightJoined] at same
        exact .inl ((String.append_left_inj _).1 same)
  · rintro (same | added | added)
    · rw [same]
    · exact added.directory_prefix_eq
    · exact added.directory_prefix_eq.symm

theorem safe_text_slash_iff {text : String} : SafeText (text ++ "/") ↔ SafeText text := by
  refine ⟨fun safe c inside => safe c ?_, fun safe => safe.append (by decide)⟩
  rw [String.toList_append]
  exact List.mem_append_left _ inside

namespace Plan

def opening (plan : Plan) : String :=
  "\nCC\t= " ++ plan.compiler ++ "\nCFLAGS\t= " ++ plan.cflags ++ "\nLDFLAGS\t= " ++ plan.ldflags ++
    "\n"

def remainder (plan : Plan) : String :=
  plan.ldlibs ++ "\n" ++ Text.block (plan.goalRows.tail ++ plan.units.flatMap unitRows)

theorem render_eq (plan : Plan) :
    plan.render = plan.opening ++ ("LDLIBS\t= " ++ plan.remainder) := by
  apply String.toList_inj.1
  simp [render, rows, toolRows, goalRows, opening, remainder, Text.block]

theorem remainder_with (plan : Plan) (compiler cflags ldflags : String) :
    { plan with compiler, cflags, ldflags }.remainder = plan.remainder := rfl

end Plan

namespace Configuration

/-- The configurations may differ in compiler, profile and byte order, and in the spelling of their
directories. -/
structure BuildsAlike (left right : Configuration) : Prop where
  platform : left.platform = right.platform
  output : left.output = right.output
  testMode : left.testMode = right.testMode
  sourceDir : SameDirectory left.sourceDir right.sourceDir
  buildDir : SameDirectory left.buildDir right.buildDir

variable {left right : Configuration}

theorem BuildsAlike.source_front (alike : left.BuildsAlike right) :
    left.sourcePrefix = right.sourcePrefix := directory_prefix_eq_iff.2 alike.sourceDir

theorem BuildsAlike.build_front (alike : left.BuildsAlike right) :
    left.buildPrefix = right.buildPrefix := directory_prefix_eq_iff.2 alike.buildDir

theorem BuildsAlike.object_front (alike : left.BuildsAlike right) :
    left.objectPrefix = right.objectPrefix := by
  rw [Configuration.objectPrefix, Configuration.objectPrefix, alike.build_front]

theorem BuildsAlike.compilation_unit (alike : left.BuildsAlike right) (catalog : Catalog) :
    left.compilationUnit catalog = right.compilationUnit catalog := by
  funext name
  simp only [Configuration.compilationUnit, alike.object_front, alike.source_front]

theorem BuildsAlike.is_entry_point (alike : left.BuildsAlike right) (catalog : Catalog) :
    left.isEntryPoint catalog = right.isEntryPoint catalog := by
  funext unit
  simp only [Configuration.isEntryPoint, alike.object_front, alike.source_front]

/-- The units are the same in test mode too, where one of them is found by its paths. -/
theorem BuildsAlike.units (alike : left.BuildsAlike right) (catalog : Catalog)
    (platform : PlatformEntry) : left.units catalog platform = right.units catalog platform := by
  simp only [Configuration.units, plainUnits, substituteEntryPoint, entryPoint?, alike.testMode,
    alike.compilation_unit catalog, alike.is_entry_point catalog]

/-- The plans differ at most in compiler and flags. -/
theorem BuildsAlike.plan (alike : left.BuildsAlike right) {catalog : Catalog}
    {leftSettings rightSettings : Settings}
    (leftResolved : left.resolve catalog = .ok leftSettings)
    (rightResolved : right.resolve catalog = .ok rightSettings) :
    right.plan catalog rightSettings =
      { left.plan catalog leftSettings with
        compiler := rightSettings.compiler
        cflags := rightSettings.cflags
        ldflags := rightSettings.ldflags } := by
  obtain ⟨-, leftCompiler, platform, -, leftFound, rfl⟩ := resolve_eq_ok_iff.1 leftResolved
  obtain ⟨-, rightCompiler, other, -, rightFound, rfl⟩ := resolve_eq_ok_iff.1 rightResolved
  have samePlatform : platform = other := by
    rw [alike.platform, rightFound] at leftFound
    exact (Option.some.inj leftFound).symm
  subst samePlatform
  simp only [Configuration.plan, settingsWith, alike.source_front, alike.build_front, alike.output,
    alike.units catalog platform]

theorem settings_eq (compiler : left.compiler = right.compiler)
    (profile : left.profile = right.profile) (platform : left.platform = right.platform)
    (byteOrder : left.byteOrder = right.byteOrder)
    {catalog : Catalog} {leftSettings rightSettings : Settings}
    (leftResolved : left.resolve catalog = .ok leftSettings)
    (rightResolved : right.resolve catalog = .ok rightSettings) :
    leftSettings = rightSettings := by
  obtain ⟨-, leftCompiler, leftEntry, leftNamed, leftFound, rfl⟩ :=
    resolve_eq_ok_iff.1 leftResolved
  obtain ⟨-, rightCompiler, rightEntry, rightNamed, rightFound, rfl⟩ :=
    resolve_eq_ok_iff.1 rightResolved
  rw [compiler, rightNamed] at leftNamed
  rw [platform, rightFound] at leftFound
  rw [Option.some.inj leftNamed, Option.some.inj leftFound]
  simp only [settingsWith, cflags, ldflags, profile, byteOrder]

theorem resolve_slashed (configuration : Configuration) (catalog : Catalog) {slot : Slot}
    (directory : slot ≠ .output) (settings : Settings) :
    (configuration.assign (.write slot (configuration.read slot ++ "/"))).resolve catalog =
        .ok settings ↔
      configuration.resolve catalog = .ok settings := by
  rw [resolve_eq_ok_iff, resolve_eq_ok_iff, check_slots_eq_ok_iff, check_slots_eq_ok_iff]
  cases slot with
  | output => contradiction
  | sourceDir =>
      simp only [assign, read, safe_text_slash_iff]
      rfl
  | buildDir =>
      simp only [assign, read, safe_text_slash_iff]
      rfl

/-- Two resolved configurations with the same platform, output, mode and directories have Makefiles
that differ before the assignment of the libraries only, and not even there if compiler, profile and
byte order are the same. A slash after a directory does not matter to resolving either, and neither
compiler nor flags depend on output, directories or mode. -/
theorem render_independence (catalog : Catalog) :
    (∀ (left right : Configuration) (leftSettings rightSettings : Settings),
      left.BuildsAlike right → left.resolve catalog = .ok leftSettings →
      right.resolve catalog = .ok rightSettings →
        let leftPlan := left.plan catalog leftSettings
        let rightPlan := right.plan catalog rightSettings
        (∃ remainder,
          leftPlan.render = leftPlan.opening ++ ("LDLIBS\t= " ++ remainder) ∧
          rightPlan.render = rightPlan.opening ++ ("LDLIBS\t= " ++ remainder)) ∧
        (left.compiler = right.compiler → left.profile = right.profile →
          left.byteOrder = right.byteOrder → leftPlan.render = rightPlan.render)) ∧
      (∀ (configuration : Configuration) (slot : Slot) (settings : Settings), slot ≠ .output →
        ((configuration.assign (.write slot (configuration.read slot ++ "/"))).resolve catalog =
            .ok settings ↔
          configuration.resolve catalog = .ok settings)) ∧
      ∀ (configuration : Configuration) (output sourceDir buildDir : String) (testMode : Bool)
        (settings otherSettings : Settings),
        let other := { configuration with output, sourceDir, buildDir, testMode }
        configuration.resolve catalog = .ok settings →
        other.resolve catalog = .ok otherSettings →
          let plan := configuration.plan catalog settings
          let otherPlan := other.plan catalog otherSettings
          otherPlan.compiler = plan.compiler ∧ otherPlan.cflags = plan.cflags ∧
            otherPlan.ldflags = plan.ldflags ∧ otherPlan.ldlibs = plan.ldlibs := by
  refine ⟨?_, ?_, ?_⟩
  · intro left right leftSettings rightSettings alike leftResolved rightResolved
      leftPlan rightPlan
    have plans : rightPlan = { leftPlan with
        compiler := rightSettings.compiler
        cflags := rightSettings.cflags
        ldflags := rightSettings.ldflags } := alike.plan leftResolved rightResolved
    have remainders : rightPlan.remainder = leftPlan.remainder := by
      rw [plans]
      exact leftPlan.remainder_with _ _ _
    refine ⟨⟨leftPlan.remainder, leftPlan.render_eq, ?_⟩, ?_⟩
    · rw [← remainders]
      exact rightPlan.render_eq
    · intro compiler profile byteOrder
      have settings : leftSettings = rightSettings :=
        settings_eq compiler profile alike.platform byteOrder leftResolved rightResolved
      rw [plans, ← settings]
      rfl
  · intro configuration slot settings directory
    exact resolve_slashed configuration catalog directory settings
  · intro configuration output sourceDir buildDir testMode settings otherSettings other resolved
      otherResolved plan otherPlan
    have compiler : other.compiler = configuration.compiler := rfl
    have profile : other.profile = configuration.profile := rfl
    have platform : other.platform = configuration.platform := rfl
    have byteOrder : other.byteOrder = configuration.byteOrder := rfl
    have same := settings_eq compiler profile platform byteOrder otherResolved resolved
    subst same
    exact ⟨rfl, rfl, rfl, rfl⟩

def slashless : Configuration where
  compiler := .gcc
  profile := .debug
  byteOrder := .big
  sourceDir := "src"
  buildDir := "build"
  testMode := true

end Configuration

/-- A catalog whose suffixes break the lines of a Makefile. -/
def Catalog.broken : Catalog := { builtin with sourceSuffix := ".c\n", objectSuffix := "\n.o" }

theorem Configuration.render_independence_broken :
    ∃ leftSettings rightSettings,
      ({ testMode := true } : Configuration).resolve .broken = .ok leftSettings ∧
      slashless.resolve .broken = .ok rightSettings ∧
      ∃ remainder,
        (({ testMode := true } : Configuration).plan .broken leftSettings).render =
          "\nCC\t= clang\nCFLAGS\t= -std=c99 -Wall -Wno-pointer-sign -D_XOPEN_SOURCE=700\n" ++
            "LDFLAGS\t= -s -O2\n" ++ ("LDLIBS\t= " ++ remainder) ∧
        (slashless.plan .broken rightSettings).render =
          "\nCC\t= gcc\nCFLAGS\t= -g -std=c99 -Wall -Wno-pointer-sign -D_XOPEN_SOURCE=700 " ++
            "-D__BIG_ENDIAN__\nLDFLAGS\t= -g\n" ++ ("LDLIBS\t= " ++ remainder) := by
  have alike : BuildsAlike { testMode := true } slashless :=
    { platform := rfl
      output := rfl
      testMode := rfl
      sourceDir := .inr (.inr ⟨by decide, by decide, rfl⟩)
      buildDir := .inr (.inr ⟨by decide, by decide, rfl⟩) }
  refine ⟨_, _, rfl, rfl, ?_⟩
  obtain ⟨⟨remainder, leftText, rightText⟩, -⟩ :=
    (render_independence .broken).1 _ _ _ _ alike rfl rfl
  exact ⟨remainder, leftText, rightText⟩

end MakePlan
