import MakePlan.Proofs.Catalog.Validation
import MakePlan.Proofs.CommandLine
import MakePlan.Proofs.Failure
import MakePlan.Proofs.FileSystem
import MakePlan.Proofs.Settings
import MakePlan.Run

/-!
# What a run does to the files

A run ends in one of five ways. Only the last of them, a successful write, changes a file, and what
it writes depends on the build options and the text of the catalog alone.
-/

namespace MakePlan

set_option autoImplicit false

def Catalog.ofDocument : Option String → Except Failure Catalog
  | none => .ok .builtin
  | some document => Catalog.parse document

def generate (tokens : List String) (document : Option String) : Except Failure String := do
  let configuration ← Configuration.ofTokens tokens
  let catalog ← Catalog.ofDocument document
  let settings ← configuration.resolve catalog
  .ok (configuration.plan catalog settings).render

namespace Request

variable {request : Request} {system : FileSystem} {readText : String → Except IoError String}
variable {configuration : Configuration} {catalog : Catalog} {settings : Settings}

def document (request : Request) (readText : String → Except IoError String) :
    Except IoError (Option String) :=
  match request.catalog with
  | none => .ok none
  | some path => (readText path).map some

theorem load_catalog_eq (request : Request) (readText : String → Except IoError String) :
    request.loadCatalog readText =
      ((request.document readText).mapError Failure.io >>= Catalog.ofDocument).mapError
        fun failure =>
          { context := "Failed to load catalog " ++ request.catalog.getD "" ++ ": ", failure } := by
  unfold loadCatalog document
  cases request.catalog with
  | none => rfl
  | some path =>
      dsimp only
      cases readText path <;> rfl

theorem load_catalog_eq_ok (loaded : request.loadCatalog readText = .ok catalog) :
    ∃ document, request.document readText = .ok document ∧
      Catalog.ofDocument document = .ok catalog := by
  rw [load_catalog_eq, Result.map_error_eq_ok] at loaded
  obtain ⟨document, found, parsed⟩ := Result.bind_eq_ok.1 loaded
  exact ⟨document, Result.map_error_eq_ok.1 found, parsed⟩

theorem load_catalog_eq_error {trouble : Trouble}
    (unloaded : request.loadCatalog readText = .error trouble) :
    (∃ error, request.document readText = .error error ∧ trouble.failure = .io error) ∨
      ∃ document, request.document readText = .ok document ∧
        Catalog.ofDocument document = .error trouble.failure := by
  rw [load_catalog_eq] at unloaded
  obtain ⟨failure, refused, rfl⟩ := Result.map_error_eq_error.1 unloaded
  rcases Result.bind_eq_error.1 refused with unread | ⟨document, found, unparsed⟩
  · obtain ⟨error, missing, rfl⟩ := Result.map_error_eq_error.1 unread
    exact .inl ⟨error, missing, rfl⟩
  · exact .inr ⟨document, Result.map_error_eq_ok.1 found, unparsed⟩

theorem read_text_of_load_catalog (loaded : request.loadCatalog readText = .ok catalog)
    {path : String} (named : request.catalog = some path) : ∃ text, readText path = .ok text := by
  obtain ⟨content, found, -⟩ := load_catalog_eq_ok loaded
  unfold document at found
  rw [named] at found
  obtain ⟨text, read, -⟩ := Result.map_eq_ok.1 found
  exact ⟨text, read⟩

theorem exit_code_load_catalog {trouble : Trouble}
    (unloaded : request.loadCatalog readText = .error trouble) : trouble.failure.exitCode = 1 := by
  rcases load_catalog_eq_error unloaded with ⟨error, -, same⟩ | ⟨document, -, unparsed⟩
  · rw [same]
    rfl
  · cases document with
    | none => contradiction
    | some text => exact Catalog.exit_code_parse unparsed

/-- Only the catalog file matters to what a request comes to. -/
theorem prepare_congr {other : String → Except IoError String}
    (same : ∀ path, request.catalog = some path → other path = readText path) :
    request.prepare other = request.prepare readText := by
  have sameCatalog : request.loadCatalog other = request.loadCatalog readText := by
    unfold loadCatalog
    cases named : request.catalog with
    | none => rfl
    | some path => simp only [same path named]
  unfold prepare
  rw [sameCatalog]

def product (request : Request) (configuration : Configuration) (catalog : Catalog)
    (settings : Settings) : Product where
  makefile := (configuration.plan catalog settings).render
  report :=
    if request.printPlan then (configuration.plan catalog settings).report configuration else ""
  details :=
    ⟨.debug, programName, configuration.settingsDetail settings⟩ ::
      (configuration.planDetails catalog settings.platform).map fun detail =>
        ⟨.debug, programName ++ "::plan", detail⟩

theorem prepare_eq_ok_iff {product : Product} :
    request.prepare readText = .ok product ↔
      ∃ configuration catalog settings,
        Configuration.ofTokens request.tokens = .ok configuration ∧
        request.loadCatalog readText = .ok catalog ∧
        configuration.resolve catalog = .ok settings ∧
        product = request.product configuration catalog settings := by
  unfold prepare
  simp only [Result.bind_eq_ok, Result.map_error_eq_ok, Except.ok.injEq]
  constructor
  · rintro ⟨configuration, given, catalog, loaded, settings, resolved, rfl⟩
    exact ⟨configuration, catalog, settings, given, loaded, resolved, rfl⟩
  · rintro ⟨configuration, catalog, settings, given, loaded, resolved, rfl⟩
    exact ⟨configuration, given, catalog, loaded, settings, resolved, rfl⟩

/-- A failure hides all that would have come after it. -/
theorem prepare_eq_error_iff {trouble : Trouble} :
    request.prepare readText = .error trouble ↔
      (∃ failure, Configuration.ofTokens request.tokens = .error failure ∧
        trouble = { failure }) ∨
      ∃ configuration, Configuration.ofTokens request.tokens = .ok configuration ∧
        (request.loadCatalog readText = .error trouble ∨
          ∃ catalog failure, request.loadCatalog readText = .ok catalog ∧
            configuration.resolve catalog = .error failure ∧ trouble = { failure }) := by
  unfold prepare
  simp only [Result.bind_eq_error, Result.map_error_eq_ok, Result.map_error_eq_error, reduceCtorEq,
    and_false, exists_false, or_false]
  constructor
  · rintro (⟨failure, refused, rfl⟩ |
      ⟨configuration, given, unloaded | ⟨catalog, loaded, failure, refused, rfl⟩⟩)
    · exact .inl ⟨failure, refused, rfl⟩
    · exact .inr ⟨configuration, given, .inl unloaded⟩
    · exact .inr ⟨configuration, given, .inr ⟨catalog, failure, loaded, refused, rfl⟩⟩
  · rintro (⟨failure, refused, rfl⟩ |
      ⟨configuration, given, unloaded | ⟨catalog, failure, loaded, refused, rfl⟩⟩)
    · exact .inl ⟨failure, refused, rfl⟩
    · exact .inr ⟨configuration, given, .inl unloaded⟩
    · exact .inr ⟨configuration, given, .inr ⟨catalog, loaded, failure, refused, rfl⟩⟩

/-- After its build options were read, a later stage of the request fails. The stages come in this
order, and each is reached only if those before it succeed. -/
inductive Fails (request : Request) (configuration : Configuration) (system : FileSystem) : Prop
  | reading (error : IoError) (unread : request.document system.readText = .error error)
  | parsing (document : Option String) (failure : Failure)
      (found : request.document system.readText = .ok document)
      (unparsed : Catalog.ofDocument document = .error failure)
  | resolving (document : Option String) (catalog : Catalog) (failure : Failure)
      (found : request.document system.readText = .ok document)
      (parsed : Catalog.ofDocument document = .ok catalog)
      (refused : configuration.resolve catalog = .error failure)
  | writing (document : Option String) (catalog : Catalog) (settings : Settings) (error : IoError)
      (found : request.document system.readText = .ok document)
      (parsed : Catalog.ofDocument document = .ok catalog)
      (resolved : configuration.resolve catalog = .ok settings)
      (real : request.dryRun = false)
      (unwritten : system.write request.makefile
        (configuration.plan catalog settings).render.toUTF8 = .error error)

theorem fails_of_load_catalog {trouble : Trouble}
    (unloaded : request.loadCatalog system.readText = .error trouble) :
    request.Fails configuration system := by
  rcases load_catalog_eq_error unloaded with ⟨error, unread, -⟩ | ⟨document, found, unparsed⟩
  · exact .reading error unread
  · exact .parsing document _ found unparsed

end Request

/-- The command line, or the build options in it, cannot be read. -/
def Unreadable (arguments : List String) : Prop :=
  (∀ invocation, ¬ Asks arguments invocation) ∨
    ∃ request failure, Asks arguments (.run request) ∧
      Configuration.ofTokens request.tokens = .error failure

def Failing (system : FileSystem) (arguments : List String) : Prop :=
  ∃ request configuration, Asks arguments (.run request) ∧
    Configuration.ofTokens request.tokens = .ok configuration ∧
    request.Fails configuration system

/-- The Makefile is to be written to the file that holds the catalog. -/
def OverwritesCatalog (system : FileSystem) (arguments : List String) : Prop :=
  ∃ request path place, Asks arguments (.run request) ∧
    request.catalog = some path ∧ system.locate path = .ok place ∧
    system.target request.makefile = .ok place

inductive Ending (system : FileSystem) (arguments : List String) : Outcome → FileSystem → Prop
  | rejected {outcome : Outcome} (nothing : ∀ invocation, ¬ Asks arguments invocation)
      (code : outcome.code = 2) : Ending system arguments outcome system
  | answered {outcome : Outcome}
      (asked : Asks arguments .help ∨ Asks arguments .version)
      (code : outcome.code = 0) : Ending system arguments outcome system
  | unreadable {outcome : Outcome} (request : Request) (failure : Failure)
      (asked : Asks arguments (.run request))
      (refused : Configuration.ofTokens request.tokens = .error failure)
      (code : outcome.code = 2) : Ending system arguments outcome system
  | failed {outcome : Outcome} (request : Request) (configuration : Configuration)
      (asked : Asks arguments (.run request))
      (given : Configuration.ofTokens request.tokens = .ok configuration)
      (fails : request.Fails configuration system)
      (code : outcome.code = 1) : Ending system arguments outcome system
  | previewed {outcome : Outcome} (request : Request) (product : Product)
      (asked : Asks arguments (.run request))
      (prepared : request.prepare system.readText = .ok product)
      (dry : request.dryRun = true)
      (code : outcome.code = 0) : Ending system arguments outcome system
  | written {outcome : Outcome} {after : FileSystem} (request : Request) (product : Product)
      (asked : Asks arguments (.run request))
      (prepared : request.prepare system.readText = .ok product)
      (real : request.dryRun = false)
      (written : system.write request.makefile product.makefile.toUTF8 = .ok after)
      (code : outcome.code = 0) : Ending system arguments outcome after

theorem run_ending (system : FileSystem) (arguments : List String) :
    Ending system arguments (run system arguments).1 (run system arguments).2 := by
  unfold run
  split
  · rename_i rejected
    exact .rejected (rejected_iff.1 rejected) rfl
  · rename_i answered
    exact .answered (.inl (asks_iff.2 ⟨answered, by simp⟩)) rfl
  · rename_i answered
    exact .answered (.inr (asks_iff.2 ⟨answered, by simp⟩)) rfl
  · rename_i request invoked
    have asked : Asks arguments (.run request) := asks_iff.2 ⟨invoked, by simp⟩
    split
    · rename_i trouble unprepared
      rcases Request.prepare_eq_error_iff.1 unprepared with ⟨failure, refused, rfl⟩ |
        ⟨configuration, given, unloaded | ⟨catalog, failure, loaded, refused, rfl⟩⟩
      · exact .unreadable request failure asked refused
          (Configuration.exit_code_of_tokens refused)
      · exact .failed request configuration asked given (Request.fails_of_load_catalog unloaded)
          (Request.exit_code_load_catalog unloaded)
      · obtain ⟨document, found, parsed⟩ := Request.load_catalog_eq_ok loaded
        exact .failed request configuration asked given
          (.resolving document catalog failure found parsed refused)
          (Configuration.exit_code_resolve refused)
    · rename_i product prepared
      split
      · rename_i dry
        exact .previewed request product asked prepared dry rfl
      · rename_i real
        split
        · rename_i error unwritten
          obtain ⟨configuration, catalog, settings, given, loaded, resolved, rfl⟩ :=
            Request.prepare_eq_ok_iff.1 prepared
          obtain ⟨document, found, parsed⟩ := Request.load_catalog_eq_ok loaded
          exact .failed request configuration asked given
            (.writing document catalog settings error found parsed resolved
              (by simpa using real) unwritten) rfl
        · rename_i after written
          exact .written request product asked prepared (by simpa using real) written rfl

section Status

variable {system : FileSystem} {arguments : List String} {request : Request}

theorem not_run_of_answered (answered : Asks arguments .help ∨ Asks arguments .version)
    (request : Request) : ¬ Asks arguments (.run request) := by
  intro asked
  rcases answered with help | version
  · exact absurd (help.unique asked) (by simp)
  · exact absurd (version.unique asked) (by simp)

theorem not_unreadable (asked : Asks arguments (.run request))
    {configuration : Configuration}
    (given : Configuration.ofTokens request.tokens = .ok configuration) :
    ¬ Unreadable arguments := by
  rintro (nothing | ⟨other, failure, askedOther, refused⟩)
  · exact nothing _ asked
  · have same : request = other := Invocation.run.inj (asked.unique askedOther)
    rw [← same, given] at refused
    contradiction

theorem Unreadable.not_failing (unreadable : Unreadable arguments) :
    ¬ Failing system arguments := by
  rintro ⟨request, configuration, asked, given, -⟩
  exact not_unreadable asked given unreadable

theorem not_failing (asked : Asks arguments (.run request))
    {product : Product} (prepared : request.prepare system.readText = .ok product)
    (finished : request.dryRun = true ∨
      ∃ after, system.write request.makefile product.makefile.toUTF8 = .ok after) :
    ¬ Failing system arguments := by
  rintro ⟨other, configuration, askedOther, givenOther, fails⟩
  obtain rfl : request = other := Invocation.run.inj (asked.unique askedOther)
  obtain ⟨same, catalog, settings, given, loaded, resolved, rfl⟩ :=
    Request.prepare_eq_ok_iff.1 prepared
  obtain rfl : same = configuration := Except.ok.inj (given.symm.trans givenOther)
  obtain ⟨document, found, parsed⟩ := Request.load_catalog_eq_ok loaded
  -- Whatever stage is said to fail, its result is already known to be a success.
  cases fails with
  | reading error unread =>
      rw [found] at unread
      contradiction
  | parsing other failure foundOther unparsed =>
      rw [found, Except.ok.injEq] at foundOther
      rw [← foundOther, parsed] at unparsed
      contradiction
  | resolving other catalogOther failure foundOther parsedOther refused =>
      rw [found, Except.ok.injEq] at foundOther
      rw [← foundOther, parsed, Except.ok.injEq] at parsedOther
      rw [← parsedOther, resolved] at refused
      contradiction
  | writing other catalogOther settingsOther error foundOther parsedOther resolvedOther real
      unwritten =>
      rw [found, Except.ok.injEq] at foundOther
      rw [← foundOther, parsed, Except.ok.injEq] at parsedOther
      rw [← parsedOther, resolved, Except.ok.injEq] at resolvedOther
      rw [← parsedOther, ← resolvedOther] at unwritten
      rcases finished with dry | ⟨after, written⟩
      · rw [real] at dry
        contradiction
      · exact absurd (written.symm.trans unwritten) (by simp)

theorem Ending.status {outcome : Outcome} {after : FileSystem}
    (ending : Ending system arguments outcome after) :
    (outcome.code = 2 ∧ Unreadable arguments ∧ ¬ Failing system arguments) ∨
    (outcome.code = 1 ∧ ¬ Unreadable arguments ∧ Failing system arguments) ∨
    (outcome.code = 0 ∧ ¬ Unreadable arguments ∧ ¬ Failing system arguments) := by
  cases ending with
  | rejected nothing code =>
      have unreadable : Unreadable arguments := .inl nothing
      exact .inl ⟨code, unreadable, unreadable.not_failing⟩
  | answered answered code =>
      refine .inr (.inr ⟨code, ?_, ?_⟩)
      · rintro (nothing | ⟨request, failure, asked, -⟩)
        · exact answered.elim (nothing _) (nothing _)
        · exact not_run_of_answered answered request asked
      · rintro ⟨request, configuration, asked, -⟩
        exact not_run_of_answered answered request asked
  | unreadable request failure asked refused code =>
      have unreadable : Unreadable arguments := .inr ⟨request, failure, asked, refused⟩
      exact .inl ⟨code, unreadable, unreadable.not_failing⟩
  | failed request configuration asked given fails code =>
      exact .inr (.inl ⟨code, not_unreadable asked given,
        request, configuration, asked, given, fails⟩)
  | previewed request product asked prepared dry code =>
      obtain ⟨configuration, -, -, given, -⟩ := Request.prepare_eq_ok_iff.1 prepared
      exact .inr (.inr ⟨code, not_unreadable asked given,
        not_failing asked prepared (.inl dry)⟩)
  | written request product asked prepared real written code =>
      obtain ⟨configuration, -, -, given, -⟩ := Request.prepare_eq_ok_iff.1 prepared
      exact .inr (.inr ⟨code, not_unreadable asked given,
        not_failing asked prepared (.inr ⟨_, written⟩)⟩)

end Status

section Files

variable {system after : FileSystem} {arguments : List String} {request : Request}
variable {product : Product}

/-- What was prepared is a function of the build options and the text of the catalog. -/
theorem generate_of_prepare (prepared : request.prepare system.readText = .ok product) :
    ∃ document, request.document system.readText = .ok document ∧
      generate request.tokens document = .ok product.makefile := by
  obtain ⟨configuration, catalog, settings, given, loaded, resolved, rfl⟩ :=
    Request.prepare_eq_ok_iff.1 prepared
  obtain ⟨document, found, decoded⟩ := Request.load_catalog_eq_ok loaded
  refine ⟨document, found, ?_⟩
  simp only [generate, Result.bind_eq_ok]
  exact ⟨configuration, given, catalog, decoded, settings, resolved, rfl⟩

/-- After a write the run goes as before, unless it has overwritten its own catalog. -/
theorem run_again (asked : Asks arguments (.run request))
    (prepared : request.prepare system.readText = .ok product) (real : request.dryRun = false)
    (written : system.write request.makefile product.makefile.toUTF8 = .ok after)
    (kept : ¬ OverwritesCatalog system arguments) : run after arguments = run system arguments := by
  obtain ⟨place, aimed, filled⟩ := FileSystem.filled_write written
  obtain ⟨configuration, catalog, settings, -, loaded, -⟩ := Request.prepare_eq_ok_iff.1 prepared
  -- The write went to another place, so the catalog reads as it did before.
  have sameCatalog : ∀ path, request.catalog = some path →
      after.readText path = system.readText path := by
    intro path named
    obtain ⟨text, found⟩ := Request.read_text_of_load_catalog loaded named
    have elsewhere : system.locate path ≠ .ok place := by
      intro located
      exact kept ⟨request, path, place, asked, named, located, aimed⟩
    rw [found]
    exact filled.read_text_other elsewhere found
  have preparedAgain : request.prepare after.readText = .ok product := by
    rw [Request.prepare_congr sameCatalog]
    exact prepared
  have writtenAgain := FileSystem.write_write written
  simp only [run, asked.of_arguments, prepared, preparedAgain, real, written, writtenAgain,
    Bool.false_eq_true, if_false]

namespace Ending

variable {outcome : Outcome} (ending : Ending system arguments outcome after)

include ending

theorem unchanged_or_written :
    after = system ∨ outcome.code = 0 ∧
      ∃ request product, Asks arguments (.run request) ∧
        request.prepare system.readText = .ok product ∧ request.dryRun = false ∧
        system.write request.makefile product.makefile.toUTF8 = .ok after := by
  cases ending with
  | written request product asked prepared real written code =>
      exact .inr ⟨code, request, product, asked, prepared, real, written⟩
  | _ => exact .inl rfl

theorem unchanged_of_failure (failed : outcome.code ≠ 0) : after = system := by
  rcases ending.unchanged_or_written with unchanged | ⟨code, -⟩
  · exact unchanged
  · exact absurd code failed

theorem unchanged_of_dry (allDry : ∀ request, Asks arguments (.run request) →
    request.dryRun = true) : after = system := by
  rcases ending.unchanged_or_written with unchanged | ⟨-, request, product, asked, -, real, -⟩
  · exact unchanged
  · rw [allDry request asked] at real
    contradiction

theorem of_answered (answered : Asks arguments .help ∨ Asks arguments .version) :
    outcome.code = 0 ∧ after = system := by
  have noRun := not_run_of_answered answered
  cases ending with
  | rejected nothing => exact absurd answered (not_or.2 ⟨nothing _, nothing _⟩)
  | answered _ code => exact ⟨code, rfl⟩
  | unreadable request _ asked => exact absurd asked (noRun request)
  | failed request _ asked => exact absurd asked (noRun request)
  | previewed request _ asked => exact absurd asked (noRun request)
  | written request _ asked => exact absurd asked (noRun request)

/-- A run that succeeds in earnest has written what it prepared. -/
theorem written_of_success (done : outcome.code = 0)
    (asked : Asks arguments (.run request)) (real : request.dryRun = false) :
    ∃ product, request.prepare system.readText = .ok product ∧
      system.write request.makefile product.makefile.toUTF8 = .ok after := by
  cases ending with
  | rejected _ code => omega
  | answered answered => exact absurd asked (not_run_of_answered answered request)
  | unreadable _ _ _ _ code => omega
  | failed _ _ _ _ _ code => omega
  | previewed other product askedOther _ dry =>
      have same : request = other := Invocation.run.inj (asked.unique askedOther)
      rw [← same, real] at dry
      contradiction
  | written other product askedOther prepared _ written =>
      obtain rfl : request = other := Invocation.run.inj (asked.unique askedOther)
      exact ⟨product, prepared, written⟩

end Ending

theorem run_run (kept : ¬ OverwritesCatalog system arguments) :
    run (run system arguments).2 arguments = run system arguments := by
  rcases (run_ending system arguments).unchanged_or_written with unchanged |
    ⟨-, request, product, asked, prepared, real, written⟩
  · rw [unchanged]
  · exact run_again asked prepared real written kept

/-- A run gives the file at its Makefile's path its content and changes nothing else, and it does so
only if it succeeds and is not dry. It exits with 2 if the options cannot be read, whatever the
files are, with 1 if a later stage fails, and with 0 otherwise. -/
theorem run_effects (system : FileSystem) (arguments : List String) :
    let outcome := (run system arguments).1
    let after := (run system arguments).2
    (outcome.code ≠ 0 → after = system) ∧
    ((∀ request, Asks arguments (.run request) → request.dryRun = true) → after = system) ∧
    (∀ request, outcome.code = 0 → Asks arguments (.run request) → request.dryRun = false →
      ∃ document makefile place,
        request.document system.readText = .ok document ∧
        generate request.tokens document = .ok makefile ∧
        system.target request.makefile = .ok place ∧
        system.Filled after place makefile.toUTF8 ∧
        after.read request.makefile = .ok makefile.toUTF8) ∧
    (¬ OverwritesCatalog system arguments → run after arguments = (outcome, after)) ∧
    (Asks arguments .help ∨ Asks arguments .version → outcome.code = 0 ∧ after = system) ∧
    (outcome.code = 2 ↔ Unreadable arguments) ∧
    (outcome.code = 1 ↔ Failing system arguments) ∧
    (outcome.code = 0 ↔ ¬ Unreadable arguments ∧ ¬ Failing system arguments) := by
  have ending := run_ending system arguments
  have status := ending.status
  refine ⟨ending.unchanged_of_failure, ending.unchanged_of_dry, ?_, run_run,
    ending.of_answered, ?_, ?_, ?_⟩
  · intro request done asked real
    obtain ⟨product, prepared, written⟩ := ending.written_of_success done asked real
    obtain ⟨document, found, generated⟩ := generate_of_prepare prepared
    obtain ⟨place, aimed, filled⟩ := FileSystem.filled_write written
    exact ⟨document, product.makefile, place, found, generated, aimed, filled,
      filled.read_self aimed⟩
  · grind
  · grind
  · grind

/-- The Makefile goes over an old file. A dry run and a wish for help leave that file alone, and a
second run writes the same again. -/
theorem run_effects_over_old_file :
    let system : FileSystem :=
      { directories := [["work"]], files := [(["work", "out"], "old".toUTF8)],
        workingDirectory := ["work"] }
    let dry := run system ["--dry-run", "--makefile", "out", "-linux"]
    let help := run system ["--makefile", "out", "--help", "-linux"]
    let real := run system ["--makefile=out", "-linux"]
    (dry.1.code = 0 ∧ dry.2 = system) ∧
    (help.1.code = 0 ∧ help.2 = system) ∧
    (real.1.code = 0 ∧ real.2.item? ["work", "Makefile"] = none ∧
      ∃ makefile, generate ["-linux"] none = .ok makefile ∧
        real.2.item? ["work", "out"] = some (.file makefile.toUTF8)) ∧
    run real.2 ["--makefile=out", "-linux"] = real := by
  intro system dry help real
  obtain ⟨-, dryUnchanged, -, -, -, -, -, drySucceeds⟩ :=
    run_effects system ["--dry-run", "--makefile", "out", "-linux"]
  obtain ⟨-, -, writes, again, -, -, -, succeeds⟩ := run_effects system ["--makefile=out", "-linux"]
  obtain ⟨-, -, -, -, answers, -⟩ := run_effects system ["--makefile", "out", "--help", "-linux"]
  let request : Request := { makefile := "out", tokens := ["-linux"] }
  have asked : Asks ["--makefile=out", "-linux"] (.run request) := asks_iff.2 ⟨rfl, by simp⟩
  have askedDry : Asks ["--dry-run", "--makefile", "out", "-linux"]
      (.run { request with dryRun := true }) := asks_iff.2 ⟨rfl, by simp⟩
  have askedHelp : Asks ["--makefile", "out", "--help", "-linux"] .help :=
    asks_iff.2 ⟨rfl, by simp⟩
  obtain ⟨settings, resolved⟩ :=
    Configuration.exists_settings_builtin { platform := .linux } (by decide)
  have prepared : request.prepare system.readText =
      .ok (request.product { platform := .linux } .builtin settings) :=
    Request.prepare_eq_ok_iff.2 ⟨_, .builtin, settings, rfl, rfl, resolved, rfl⟩
  have aimed : system.target "out" = .ok ["work", "out"] := rfl
  have done := succeeds.2 ⟨not_unreadable asked rfl, not_failing asked prepared
    (.inr ⟨_, FileSystem.write_eq_ok_iff.2 ⟨_, aimed, rfl⟩⟩)⟩
  refine ⟨⟨?_, ?_⟩, answers (.inl askedHelp), ⟨done, ?_⟩, ?_⟩
  · exact drySucceeds.2
      ⟨not_unreadable askedDry rfl, not_failing askedDry prepared (.inl rfl)⟩
  · apply dryUnchanged
    intro other askedOther
    rw [← Invocation.run.inj (askedDry.unique askedOther)]
  · obtain ⟨document, makefile, place, found, generated, there, filled, -⟩ :=
      writes request done asked rfl
    obtain rfl : none = document := Except.ok.inj found
    obtain rfl : ["work", "out"] = place := Except.ok.inj (aimed.symm.trans there)
    refine ⟨?_, makefile, generated, filled.new⟩
    rw [filled.others _ (by decide)]
    rfl
  · apply again
    rintro ⟨other, path, place, askedOther, named, -⟩
    rw [← Invocation.run.inj (asked.unique askedOther)] at named
    contradiction

end Files

end MakePlan
