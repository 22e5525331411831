import MakePlan.Proofs.Catalog.Validation
import MakePlan.Proofs.Makefile.RoundTrip
import MakePlan.Proofs.Settings

/-!
# Accepted options cannot corrupt a Makefile

Under a catalog whose own texts are clean, every configuration that resolves has a legible plan. The
one test of the free text is thus strong enough for each place where that text is used.
-/

namespace MakePlan

set_option autoImplicit false

open Text

def Toolchain.texts (toolchain : Toolchain) : List String :=
  [ toolchain.cflags, toolchain.debugCflags, toolchain.bigEndianDefine, toolchain.releaseLdflags,
    toolchain.debugLdflags, toolchain.ldlibs ]

/-- The catalogs whose own texts are fit for a Makefile. -/
structure Catalog.Clean (catalog : Catalog) : Prop where
  headers : ∀ header ∈ catalog.headers, PlainWord header
  units : ∀ unit ∈ catalog.allUnits, Unbroken unit ∧ ':' ∉ unit.toList ∧ '=' ∉ unit.toList
  sourceSuffix : Unbroken catalog.sourceSuffix
  localEntryPoint : PlainWord catalog.localEntryPoint
  compilers : ∀ compiler ∈ catalog.compilers.values, ClosedLine compiler
  flags : ∀ flags ∈ catalog.toolchain.texts, ClosedLine flags
  defines : ∀ platform ∈ catalog.platforms.values, ∀ define ∈ platform.defines, ClosedLine define

theorem Catalog.clean_builtin : builtin.Clean := by
  constructor <;> decide +kernel

theorem SafeText.unbroken {text : String} (safe : SafeText text) : Unbroken text := by
  intro c inside
  refine ⟨is_blank_of_safe (safe c inside), ?_⟩
  intro same
  exact safe.not_mem (by decide) (same ▸ inside)

theorem SafeText.plain_goal {text : String} (safe : SafeText text) (named : text ≠ "") :
    PlainGoal text := by
  refine ⟨⟨named, safe.unbroken⟩, safe.not_mem (by decide), safe.not_mem (by decide), ?_⟩
  intro comment
  exact safe.not_mem (by decide) (List.mem_of_head? comment)

theorem PlainGoal.append {front name : String} (goal : PlainGoal front) (unbroken : Unbroken name)
    (noColon : ':' ∉ name.toList) (noEquals : '=' ∉ name.toList) : PlainGoal (front ++ name) := by
  obtain ⟨⟨named, frontUnbroken⟩, frontNoColon, frontNoEquals, noComment⟩ := goal
  refine ⟨⟨?_, frontUnbroken.append unbroken⟩, ?_, ?_, ?_⟩
  · intro empty
    exact named (String.append_eq_empty_iff.1 empty).1
  · rw [String.toList_append, List.mem_append]
    exact not_or.2 ⟨frontNoColon, noColon⟩
  · rw [String.toList_append, List.mem_append]
    exact not_or.2 ⟨frontNoEquals, noEquals⟩
  · rw [String.toList_append, List.head?_append]
    cases begins : front.toList.head? with
    | none => exact absurd (String.toList_eq_nil_iff.1 (List.head?_eq_none_iff.1 begins)) named
    | some first =>
        rw [begins] at noComment
        exact noComment

theorem SafeText.directory_front {directory : String} (safe : SafeText directory) :
    SafeText (directoryPrefix directory) := by
  unfold MakePlan.directoryPrefix
  split
  · exact safe
  · exact safe.append (by decide)

theorem ClosedLine.append {left right : String} (leftClosed : ClosedLine left)
    (rightClosed : ClosedLine right) : ClosedLine (left ++ right) := by
  constructor
  · rw [String.toList_append, List.mem_append]
    exact not_or.2 ⟨leftClosed.1, rightClosed.1⟩
  · rw [← is_continued_eq_false_iff, String.toList_append]
    exact is_continued_append leftClosed.is_continued rightClosed.is_continued

theorem ClosedLine.intercalate {texts : List String} (closed : ∀ text ∈ texts, ClosedLine text) :
    ClosedLine (" ".intercalate texts) := by
  induction texts with
  | nil => decide
  | cons first others induction =>
      have firstClosed := closed first (by simp)
      have othersClosed := induction fun text inside => closed text (by simp [inside])
      cases others with
      | nil => simpa using firstClosed
      | cons second others =>
          rw [String.intercalate_cons_cons]
          exact (firstClosed.append (by decide)).append othersClosed

namespace Configuration

theorem mem_units {configuration : Configuration} {catalog : Catalog} {platform : PlatformEntry}
    {unit : CompilationUnit} (inside : unit ∈ configuration.units catalog platform) :
    unit ∈ configuration.plainUnits catalog platform ∨
      ∃ entry ∈ configuration.plainUnits catalog platform,
        unit = ⟨entry.object, catalog.localEntryPoint⟩ := by
  unfold units at inside
  split at inside
  · unfold substituteEntryPoint at inside
    split at inside
    · exact .inl inside
    · rename_i entry found
      rcases List.mem_append.1 inside with kept | substituted
      · exact .inl (List.mem_of_mem_eraseP kept)
      · exact .inr ⟨entry, List.mem_of_find?_eq_some found, List.mem_singleton.1 substituted⟩
  · exact .inl inside

section Accepted

variable {configuration : Configuration} {catalog : Catalog} {compiler : String}
  {platform : PlatformEntry}

theorem safe_object_front (safe : SafeText configuration.buildDir) :
    SafeText configuration.objectPrefix :=
  safe.directory_front.append (by decide)

theorem object_prefix_ne_empty (configuration : Configuration) :
    configuration.objectPrefix ≠ "" := by
  intro empty
  exact absurd (String.append_eq_empty_iff.1 empty).2 (by decide)

theorem target_ne_empty (named : configuration.output ≠ "") :
    configuration.buildPrefix ++ configuration.output ≠ "" := by
  intro empty
  exact named (String.append_eq_empty_iff.1 empty).2

theorem plain_goal_object (clean : catalog.Clean) (safe : SafeText configuration.buildDir)
    {unit : String} (listed : unit ∈ catalog.allUnits) :
    PlainGoal (configuration.compilationUnit catalog unit).object := by
  obtain ⟨unbroken, noColon, noEquals⟩ := clean.units unit listed
  have front := (safe_object_front safe).plain_goal configuration.object_prefix_ne_empty
  exact front.append unbroken noColon noEquals

/-- In an accepted catalog each unit has a stem, which its source shares. -/
theorem exists_stem (configuration : Configuration) (accepted : catalog.validate = .ok ())
    {unit : String} (listed : unit ∈ catalog.allUnits) :
    ∃ stem, stem ≠ "" ∧ unit = stem ++ catalog.objectSuffix ∧
      configuration.compilationUnit catalog unit =
        { object := configuration.buildPrefix ++ "obj/" ++ unit
          source := configuration.sourcePrefix ++ stem ++ catalog.sourceSuffix } := by
  obtain ⟨stem, named, joined⟩ :=
    Catalog.well_named_iff.1 ((Catalog.validate_eq_ok_iff.1 accepted).2 unit listed)
  refine ⟨stem, named, joined, ?_⟩
  rw [joined, compilation_unit_stem]
  rfl

theorem plain_word_source (accepted : catalog.validate = .ok ()) (clean : catalog.Clean)
    (safe : SafeText configuration.sourceDir) {unit : String} (listed : unit ∈ catalog.allUnits) :
    PlainWord (configuration.compilationUnit catalog unit).source := by
  obtain ⟨stem, named, joined, unitEq⟩ := exists_stem configuration accepted listed
  have stemUnbroken : Unbroken stem := by
    intro c inside
    apply (clean.units unit listed).1 c
    rw [joined, String.toList_append]
    exact List.mem_append_left _ inside
  rw [unitEq]
  refine ⟨?_, (safe.directory_front.unbroken.append stemUnbroken).append clean.sourceSuffix⟩
  intro empty
  exact named (String.append_eq_empty_iff.1 (String.append_eq_empty_iff.1 empty).1).2

theorem plain_word_dep (clean : catalog.Clean) (safe : SafeText configuration.sourceDir)
    {header : String} (listed : header ∈ catalog.headers) :
    PlainWord (configuration.sourcePrefix ++ header) := by
  have headerWord := clean.headers header listed
  refine ⟨?_, safe.directory_front.unbroken.append headerWord.2⟩
  intro empty
  exact headerWord.1 (String.append_eq_empty_iff.1 empty).2

theorem closed_line_cflags (clean : catalog.Clean) (listed : platform ∈ catalog.platforms.values) :
    ClosedLine (" ".intercalate (configuration.cflags catalog.toolchain platform.defines)) := by
  apply ClosedLine.intercalate
  intro flags inside
  simp only [cflags, List.mem_append, List.mem_ite_nil_right, List.mem_singleton] at inside
  rcases inside with ((⟨-, rfl⟩ | rfl) | define) | ⟨-, rfl⟩
  · exact clean.flags _ (by simp [Toolchain.texts])
  · exact clean.flags _ (by simp [Toolchain.texts])
  · exact clean.defines platform listed flags define
  · exact clean.flags _ (by simp [Toolchain.texts])

theorem closed_line_ldflags (clean : catalog.Clean) :
    ClosedLine (configuration.ldflags catalog.toolchain) := by
  cases profile : configuration.profile with
  | release =>
      simp only [ldflags, profile]
      exact clean.flags _ (by simp [Toolchain.texts])
  | debug =>
      simp only [ldflags, profile]
      exact clean.flags _ (by simp [Toolchain.texts])

theorem mem_all_units (listed : platform ∈ catalog.platforms.values) {unit : String}
    (inside : unit ∈ catalog.common ++ platform.units) : unit ∈ catalog.allUnits := by
  rcases List.mem_append.1 inside with common | extra
  · exact List.mem_append_left _ common
  · exact List.mem_append_right _ (List.mem_flatMap.2 ⟨platform, listed, extra⟩)

/-- Every text of an accepted plan is fit for its place in the Makefile. -/
theorem legible_plan (accepted : catalog.validate = .ok ()) (clean : catalog.Clean)
    {settings : Settings} (resolved : configuration.resolve catalog = .ok settings) :
    (configuration.plan catalog settings).Legible := by
  obtain ⟨passed, compiler, platform, compilerFound, platformFound, rfl⟩ :=
    resolve_eq_ok_iff.1 resolved
  obtain ⟨outputSafe, sourceSafe, buildSafe, named⟩ := check_slots_eq_ok_iff.1 passed
  have compilerListed := NameMap.mem_values_of_find? compilerFound
  have platformListed := NameMap.mem_values_of_find? platformFound
  have plain : ∀ unit ∈ configuration.plainUnits catalog platform,
      PlainGoal unit.object ∧ PlainWord unit.source := by
    intro unit inside
    obtain ⟨name, nameInside, rfl⟩ := List.mem_map.1 inside
    have listed := mem_all_units platformListed nameInside
    exact ⟨plain_goal_object clean buildSafe listed,
      plain_word_source accepted clean sourceSafe listed⟩
  have planned : ∀ unit ∈ configuration.units catalog platform,
      PlainGoal unit.object ∧ PlainWord unit.source := by
    intro unit inside
    rcases mem_units inside with listed | ⟨entry, listed, rfl⟩
    · exact plain unit listed
    · exact ⟨(plain entry listed).1, clean.localEntryPoint⟩
  exact
    { compiler := clean.compilers compiler compilerListed
      cflags := closed_line_cflags clean platformListed
      ldflags := closed_line_ldflags clean
      ldlibs := clean.flags catalog.toolchain.ldlibs (by simp [Toolchain.texts])
      deps := by
        intro dep inside
        obtain ⟨header, headerInside, rfl⟩ := List.mem_map.1 inside
        exact plain_word_dep clean sourceSafe headerInside
      objects := fun unit inside => (planned unit inside).1
      sources := fun unit inside => (planned unit inside).2
      target := (buildSafe.directory_front.append outputSafe).plain_goal (target_ne_empty named)
      buildDir := buildSafe.directory_front.unbroken }

end Accepted

end Configuration

end MakePlan
