import MakePlan.Catalog.Builtin
import MakePlan.Catalog.Loading
import MakePlan.CommandLine
import MakePlan.Configuration.Tokens
import MakePlan.Log
import MakePlan.Makefile.Layout
import MakePlan.Report

/-!
# Runs

A run of the program as a step from one state of the file system to the next. All that can fail
before the Makefile is written is done first, so a run that fails leaves every file as it was.
-/

namespace MakePlan

set_option autoImplicit false

inductive Notice
  | record (entry : Record)
  | usage
  | rejection
  deriving DecidableEq, Repr

/-- A rejected command line is put into words where it is printed. -/
def Notice.text : Notice → String
  | .record entry => entry.line
  | .usage => Flag.usage programName
  | .rejection => ""

structure Outcome where
  code : Nat
  stdout : String := ""
  stderr : List Notice := []
  deriving DecidableEq, Repr

structure Trouble where
  context : String := ""
  failure : Failure
  deriving DecidableEq, Repr

namespace Trouble

def notices (trouble : Trouble) : List Notice :=
  match trouble.failure with
  | .unknownOption _ => [.record ⟨.warn, programName, trouble.failure.message⟩, .usage]
  | failure => [.record ⟨.error, programName, trouble.context ++ failure.messageWithCause⟩]

end Trouble

/-- Everything that a request comes to before the Makefile is written. -/
structure Product where
  makefile : String
  report : String
  /-- What a verbose run says on the way. -/
  details : List Record
  deriving DecidableEq, Repr

namespace Configuration

def settingsDetail (configuration : Configuration) (settings : Settings) : String :=
  let profile := match configuration.profile with
    | .release => "Release"
    | .debug => "Debug"
  let order := match configuration.byteOrder with
    | .little => "Little"
    | .big => "Big"
  "Resolved " ++ settings.compiler ++ " for " ++ configuration.platform.name ++ " (" ++ profile
    ++ ", " ++ order ++ " endian)"

def planDetails (configuration : Configuration) (catalog : Catalog) (platform : PlatformEntry) :
    List String :=
  let units := configuration.plainUnits catalog platform
  let substitution :=
    if configuration.testMode then
      match configuration.entryPoint? catalog units with
      | some entry => ["Building " ++ entry.object ++ " from " ++ catalog.localEntryPoint]
      | none => ["No entry point unit to substitute"]
    else []
  substitution ++
    ["Planned " ++ toString (configuration.units catalog platform).length ++ " compilation units"]

end Configuration

namespace Request

def loadCatalog (request : Request) (readText : String → Except IoError String) :
    Except Trouble Catalog :=
  match request.catalog with
  | none => .ok .builtin
  | some path =>
      ((readText path).mapError Failure.io >>= Catalog.parse).mapError fun failure =>
        { context := "Failed to load catalog " ++ path ++ ": ", failure }

/-- Does all of a request but the writing. -/
def prepare (request : Request) (readText : String → Except IoError String) :
    Except Trouble Product := do
  let configuration ← (Configuration.ofTokens request.tokens).mapError fun failure => { failure }
  let catalog ← request.loadCatalog readText
  let settings ← (configuration.resolve catalog).mapError fun failure => { failure }
  let plan := configuration.plan catalog settings
  .ok
    { makefile := plan.render
      report := if request.printPlan then plan.report configuration else ""
      details :=
        ⟨.debug, programName, configuration.settingsDetail settings⟩ ::
          (configuration.planDetails catalog settings.platform).map fun detail =>
            ⟨.debug, programName ++ "::plan", detail⟩ }

def preview (request : Request) (product : Product) : Outcome where
  code := 0
  stdout := product.report ++ product.makefile
  stderr := if request.verbose then product.details.map .record else []

def conclude (request : Request) (product : Product) (written : Except IoError Unit) : Outcome :=
  let spoken := if request.verbose then product.details.map Notice.record else []
  match written with
  | .ok _ =>
      { code := 0
        stdout := product.report
        stderr := spoken ++ [.record ⟨.info, programName, "Generated " ++ request.makefile⟩] }
  | .error error =>
      let trouble : Trouble :=
        { context := "Failed to write " ++ request.makefile ++ ": ", failure := .io error }
      { code := trouble.failure.exitCode
        stdout := product.report
        stderr := spoken ++ trouble.notices }

end Request

def Trouble.outcome (trouble : Trouble) : Outcome where
  code := trouble.failure.exitCode
  stderr := trouble.notices

/-- A whole run: what it prints, its exit status, and the files after it. -/
def run (system : FileSystem) (arguments : List String) : Outcome × FileSystem :=
  match Invocation.ofArguments arguments with
  | .rejected => ({ code := 2, stderr := [.rejection] }, system)
  | .help => ({ code := 0, stdout := helpText }, system)
  | .version => ({ code := 0, stdout := versionText }, system)
  | .run request =>
      match request.prepare system.readText with
      | .error trouble => (trouble.outcome, system)
      | .ok product =>
          if request.dryRun then (request.preview product, system)
          else
            match system.write request.makefile product.makefile.toUTF8 with
            | .error error => (request.conclude product (.error error), system)
            | .ok written => (request.conclude product (.ok ()), written)

end MakePlan
