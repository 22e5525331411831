import MakePlan.Proofs.CommandLine
import MakePlan.Proofs.Report
import MakePlan.Proofs.Run.Stages

/-!
# Dry runs

A dry run tells beforehand what the same run does in earnest. It fails as that one fails in front of
the write, and otherwise it prints what that one prints and then the text that that one writes.
-/

namespace MakePlan

set_option autoImplicit false

/-- A run with the option for a dry run, wherever it stands among the options, and the same run
without it. If the dry run fails, both do and in the same way. Otherwise the dry run prints the
report, if it is asked for, and the Makefile. The other run prints the report and has written the
Makefile, or failed to write it and changed no file. The report is a JSON text of configuration and
plan and a line feed. Report and Makefile are the same for all runs with the same build options,
catalog and wish for a report. -/
theorem run_dry_run (system : FileSystem) (front back : List Directive) (tokens : List String)
    (once : Directive.Once (front ++ .dryRun :: back))
    (named : ∀ first ∈ tokens.head?, Flag.Named first) :
    let request := Request.ofDirectives (front ++ back) tokens
    let dry := run system (commandLine (front ++ .dryRun :: back) tokens)
    let real := run system (commandLine (front ++ back) tokens)
    dry.2 = system ∧
    (dry.1.code ≠ 0 → real = dry) ∧
    (dry.1.code = 0 →
      ∃ document configuration catalog settings,
        request.document system.readText = .ok document ∧
        Configuration.ofTokens tokens = .ok configuration ∧
        Catalog.ofDocument document = .ok catalog ∧
        configuration.resolve catalog = .ok settings ∧
        let plan := configuration.plan catalog settings
        let makefile := plan.render
        ∃ text : String, (plan.reported configuration).Spells text.toList ∧
          let report := if request.printPlan then text ++ "\n" else ""
          dry.1.stdout = report ++ makefile ∧
          real.1.stdout = report ∧
          ((real.1.code = 0 ∧ real.2.read request.makefile = .ok makefile.toUTF8) ∨
            (real.1.code = 1 ∧ real.2 = system ∧
              ∃ error, system.write request.makefile makefile.toUTF8 = .error error)) ∧
          ∀ others, Directive.Once others →
            (Request.ofDirectives others tokens).catalog = request.catalog →
            (Request.ofDirectives others tokens).printPlan = request.printPlan →
            (run system (commandLine others tokens)).1.stdout =
              if (Request.ofDirectives others tokens).dryRun then report ++ makefile
              else report) := by
  intro request dry real
  have part := BuildPart.of_named named
  have asked : Asks (commandLine (front ++ back) tokens) (.run request) :=
    asks_command_line once.without_dry_run part
  have askedDry : Asks (commandLine (front ++ .dryRun :: back) tokens)
      (.run { request with dryRun := true }) := by
    rw [← Request.of_directives_dry_run]
    exact asks_command_line once part
  -- Both runs prepare the same, since preparing does not look at the option.
  cases prepared : request.prepare system.readText with
  | error trouble =>
      have dryEq : dry = (trouble.outcome, system) := Request.run_of_error askedDry prepared
      have realEq : real = (trouble.outcome, system) := Request.run_of_error asked prepared
      rw [dryEq, realEq]
      refine ⟨rfl, fun _ => rfl, fun done => ?_⟩
      exact absurd done trouble.failure.exit_code_ne_zero
  | ok product =>
      have dryEq : dry = (request.preview product, system) := Request.run_of_ok askedDry prepared
      have realEq : real = request.deliver system product := Request.run_of_ok asked prepared
      have inEarnest : request.dryRun = false := Request.dry_run_of_directives once
      obtain ⟨configuration, catalog, settings, given, loaded, resolved, rfl⟩ :=
        Request.prepare_eq_ok_iff.1 prepared
      obtain ⟨document, found, decoded⟩ := Request.load_catalog_eq_ok loaded
      obtain ⟨text, reportEq, spelled⟩ :=
        (configuration.plan catalog settings).exists_report_text configuration
      rw [dryEq, realEq]
      refine ⟨rfl, fun failed => absurd rfl failed, fun _ => ?_⟩
      refine ⟨document, configuration, catalog, settings, found, given, decoded, resolved, text,
        spelled, ?_⟩
      rw [← reportEq]
      refine ⟨rfl, ?_, Request.deliver_written inEarnest, ?_⟩
      · rw [Request.stdout_deliver, if_neg (by simp [inEarnest])]
        rfl
      · intro others onceOthers sameCatalog sameReport
        have sameTokens : (Request.ofDirectives others tokens).tokens = request.tokens := rfl
        have preparedOther : (Request.ofDirectives others tokens).prepare system.readText =
            .ok (request.product configuration catalog settings) := by
          rw [Request.prepare_eq_of_same sameTokens sameCatalog sameReport, prepared]
        rw [Request.run_of_ok (asks_command_line onceOthers part) preparedOther,
          Request.stdout_deliver]
        rfl

/-- There is no directory for the Makefile, which the dry run does not notice. The second argument
that looks like its option is the value of `-o`, as the report tells. -/
theorem run_dry_run_no_directory :
    let system : FileSystem :=
      { directories := [["work"]], files := [], workingDirectory := ["work"] }
    let dry := run system
      ["--print-plan", "--makefile", "out/Makefile", "--dry-run", "-be", "-o", "--dry-run"]
    let real := run system ["--print-plan", "--makefile", "out/Makefile", "-be", "-o", "--dry-run"]
    dry.1.code = 0 ∧ dry.2 = system ∧ real.1.code = 1 ∧ real.2 = system ∧
    ∃ (plan : Plan) (fields : List (String × Json)) (text : String),
      dry.1.stdout = text ++ "\n" ++ plan.render ∧ real.1.stdout = text ++ "\n" ∧
      plan.target = "build/--dry-run" ∧ ("target", .text "build/--dry-run") ∈ fields ∧
      Json.Spells
        (.record
          [ ( "configuration",
              .record
                [ ("compiler", .text "clang"), ("profile", .text "release"),
                  ("platform", .text "win32"), ("byte_order", .text "big"),
                  ("output", .text "--dry-run"), ("src_dir", .text "src/"),
                  ("build_dir", .text "build/"), ("test_mode", .boolean false) ] ),
            ("plan", .record fields) ])
        text.toList := by
  intro system dry real
  let operand : Operand := .ofUnhyphened "out/Makefile" (by decide) (by decide)
  have once : Directive.Once ([.printPlan, .makefile operand] ++ .dryRun :: []) := by
    simp [Directive.Once, Directive.option]
  have named : ∀ first ∈ ["-be", "-o", "--dry-run"].head?, Flag.Named first := by
    simp [Flag.Named, Flag.all]
  obtain ⟨unchanged, -, succeeds⟩ :=
    run_dry_run system [.printPlan, .makefile operand] [] _ once named
  let configuration : Configuration := { byteOrder := .big, output := "--dry-run" }
  obtain ⟨settings, resolved⟩ := configuration.exists_settings_builtin (by decide)
  let request : Request :=
    { makefile := "out/Makefile", printPlan := true, tokens := ["-be", "-o", "--dry-run"] }
  have prepared : request.prepare system.readText =
      .ok (request.product configuration .builtin settings) :=
    Request.prepare_eq_ok_iff.2 ⟨configuration, .builtin, settings, rfl, rfl, resolved, rfl⟩
  have asked : Asks ["--print-plan", "--makefile", "out/Makefile", "-be", "-o", "--dry-run"]
      (.run request) := asks_iff.2 ⟨rfl, by simp⟩
  have askedDry : Asks
      ["--print-plan", "--makefile", "out/Makefile", "--dry-run", "-be", "-o", "--dry-run"]
      (.run { request with dryRun := true }) := asks_iff.2 ⟨rfl, by simp⟩
  have done : dry.1.code = 0 := congrArg (·.1.code) (Request.run_of_ok askedDry prepared)
  have failed : real.1.code = 1 := by
    have unwritten : ∀ content, system.write "out/Makefile" content = .error .notFound :=
      fun _ => rfl
    have realEq : real = request.deliver system _ := Request.run_of_ok asked prepared
    rw [realEq, Request.deliver, if_neg Bool.false_ne_true, unwritten]
  obtain ⟨document, given, catalog, found, -, read, -, -, text, spelled, printed, reported,
    finished, -⟩ := succeeds done
  obtain rfl : configuration = given := Except.ok.inj read
  have target : (configuration.plan catalog found).target = "build/--dry-run" := by
    have directory : Configuration.buildPrefix {} ++ "--dry-run" = "build/--dry-run" := by decide
    exact directory
  rcases finished with ⟨finished, -⟩ | ⟨-, kept, -⟩
  · exact absurd (failed.symm.trans finished) (by decide)
  · refine ⟨done, unchanged, failed, kept, configuration.plan catalog found, _, text, printed,
      reported, target, ?_, spelled⟩
    simp [target]

end MakePlan
