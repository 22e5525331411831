import MakePlan.Proofs.Run.Effects

/-!
# A run stage by stage

Once its build options are read, a run goes through stages that look at no argument any more. What
they prepare depends on the build options and the catalog alone, and only the last stage asks
whether the Makefile is to be printed or written.
-/

namespace MakePlan

set_option autoImplicit false

namespace Request

variable {request other : Request} {system : FileSystem} {product : Product}

/-- The last stage: the Makefile is printed or written. The details of a verbose run come first on
the error stream. -/
def deliver (request : Request) (system : FileSystem) (product : Product) : Outcome × FileSystem :=
  let spoken := if request.verbose then product.details.map Notice.record else []
  if request.dryRun then
    ({ code := 0, stdout := product.report ++ product.makefile, stderr := spoken }, system)
  else
    match system.write request.makefile product.makefile.toUTF8 with
    | .error error =>
        let complaint := "Failed to write " ++ request.makefile ++ ": " ++
          (Failure.io error).messageWithCause
        ( { code := 1
            stdout := product.report
            stderr := spoken ++ [.record ⟨.error, programName, complaint⟩] },
          system )
    | .ok written =>
        ( { code := 0
            stdout := product.report
            stderr := spoken ++ [.record ⟨.info, programName, "Generated " ++ request.makefile⟩] },
          written )

def finish (request : Request) (system : FileSystem) (configuration : Configuration)
    (catalog : Catalog) : Outcome × FileSystem :=
  match configuration.resolve catalog with
  | .error failure => (Trouble.outcome { failure }, system)
  | .ok settings => request.deliver system (request.product configuration catalog settings)

/-- All stages behind the reading of the build options, from what these were read as. -/
def carryOut (request : Request) (system : FileSystem) :
    Except Failure Configuration → Outcome × FileSystem
  | .error failure => (Trouble.outcome { failure }, system)
  | .ok configuration =>
      match request.catalog with
      | none => request.finish system configuration .builtin
      | some path =>
          match (system.readText path).mapError Failure.io >>= Catalog.parse with
          | .error failure =>
              let context := "Failed to load catalog " ++ path ++ ": "
              (Trouble.outcome { context, failure }, system)
          | .ok catalog => request.finish system configuration catalog

theorem carry_out_of_loaded {configuration : Configuration} {catalog : Catalog}
    (loaded : request.loadCatalog system.readText = .ok catalog) :
    request.carryOut system (.ok configuration) = request.finish system configuration catalog := by
  unfold loadCatalog at loaded
  unfold carryOut
  cases named : request.catalog with
  | none =>
      rw [named] at loaded
      rw [← Except.ok.inj loaded]
  | some path =>
      rw [named] at loaded
      simp only [Result.map_error_eq_ok.1 loaded]

theorem carry_out_of_unloaded {configuration : Configuration} {trouble : Trouble}
    (unloaded : request.loadCatalog system.readText = .error trouble) :
    request.carryOut system (.ok configuration) = (trouble.outcome, system) := by
  unfold loadCatalog at unloaded
  unfold carryOut
  cases named : request.catalog with
  | none =>
      rw [named] at unloaded
      contradiction
  | some path =>
      rw [named] at unloaded
      obtain ⟨failure, refused, rfl⟩ := Result.map_error_eq_error.1 unloaded
      simp only [refused]

theorem run_of_error {arguments : List String} {trouble : Trouble}
    (asked : Asks arguments (.run request))
    (unprepared : request.prepare system.readText = .error trouble) :
    run system arguments = (trouble.outcome, system) := by
  simp only [run, asked.of_arguments, unprepared]

theorem run_of_ok {arguments : List String}
    (asked : Asks arguments (.run request))
    (prepared : request.prepare system.readText = .ok product) :
    run system arguments = request.deliver system product := by
  simp only [run, asked.of_arguments, prepared, deliver, preview, conclude]
  rfl

theorem run_eq_carry_out {arguments : List String}
    (asked : Asks arguments (.run request)) :
    run system arguments =
      request.carryOut system (Configuration.ofTokens request.tokens) := by
  cases prepared : request.prepare system.readText with
  | ok product =>
      obtain ⟨configuration, catalog, settings, given, loaded, resolved, rfl⟩ :=
        prepare_eq_ok_iff.1 prepared
      rw [run_of_ok asked prepared, given, carry_out_of_loaded loaded, finish, resolved]
  | error trouble =>
      rw [run_of_error asked prepared]
      rcases prepare_eq_error_iff.1 prepared with ⟨failure, refused, rfl⟩ |
        ⟨configuration, given, unloaded | ⟨catalog, failure, loaded, refused, rfl⟩⟩
      · rw [refused, carryOut]
      · rw [given, carry_out_of_unloaded unloaded]
      · rw [given, carry_out_of_loaded loaded, finish, refused]

/-- Where the Makefile goes and what is logged does not matter to what is prepared. -/
theorem prepare_eq_of_same (tokens : other.tokens = request.tokens)
    (catalog : other.catalog = request.catalog) (printPlan : other.printPlan = request.printPlan)
    (readText : String → Except IoError String) :
    other.prepare readText = request.prepare readText := by
  unfold prepare loadCatalog
  rw [tokens, catalog, printPlan]

theorem stdout_deliver :
    (request.deliver system product).1.stdout =
      if request.dryRun then product.report ++ product.makefile else product.report := by
  unfold deliver
  cases request.dryRun with
  | true => rfl
  | false =>
      cases system.write request.makefile product.makefile.toUTF8 <;> rfl

theorem deliver_written (real : request.dryRun = false) :
    ((request.deliver system product).1.code = 0 ∧
      (request.deliver system product).2.read request.makefile = .ok product.makefile.toUTF8) ∨
    ((request.deliver system product).1.code = 1 ∧ (request.deliver system product).2 = system ∧
      ∃ error, system.write request.makefile product.makefile.toUTF8 = .error error) := by
  unfold deliver
  rw [if_neg (by simp [real])]
  cases written : system.write request.makefile product.makefile.toUTF8 with
  | error error => exact .inr ⟨rfl, rfl, error, rfl⟩
  | ok after =>
      obtain ⟨place, aimed, filled⟩ := FileSystem.filled_write written
      exact .inl ⟨rfl, filled.read_self aimed⟩

end Request

end MakePlan
