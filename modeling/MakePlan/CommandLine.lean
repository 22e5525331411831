import MakePlan.Text.Lines

/-!
# The command line

The program's own options come first and begin with two hyphens. The first argument that is none of
them begins the build options, and every argument from there on is one, whatever it looks like. The
value of an option is the argument after it, or stands in the same argument after an equals sign.
-/

namespace MakePlan

set_option autoImplicit false

structure Request where
  makefile : String := "Makefile"
  catalog : Option String := none
  dryRun : Bool := false
  printPlan : Bool := false
  verbose : Bool := false
  tokens : List String := []
  deriving DecidableEq, Repr

inductive Invocation
  | run (request : Request)
  | help
  | version
  | rejected
  deriving DecidableEq, Repr

inductive ProgramOption
  | makefile
  | catalog
  | dryRun
  | printPlan
  | verbose
  | help
  | version
  deriving DecidableEq, Repr

namespace ProgramOption

def all : List ProgramOption :=
  [makefile, catalog, dryRun, printPlan, verbose, help, version]

def name : ProgramOption → String
  | makefile => "--makefile"
  | catalog => "--catalog"
  | dryRun => "--dry-run"
  | printPlan => "--print-plan"
  | verbose => "--verbose"
  | help => "--help"
  | version => "--version"

def placeholder? : ProgramOption → Option String
  | makefile => some "<MAKEFILE>"
  | catalog => some "<CATALOG>"
  | _ => none

def description : ProgramOption → String
  | makefile => "Where to write the generated Makefile [default: Makefile]"
  | catalog => "Catalog file replacing the built-in unit and header tables"
  | dryRun => "Print the Makefile instead of writing it"
  | printPlan => "Print the resolved build plan as JSON"
  | verbose => "Log resolved settings and plan details"
  | help => "Print help"
  | version => "Print version"

def ofName? (name : String) : Option ProgramOption := all.find? (·.name = name)

end ProgramOption

/-- What an argument is as long as no build option has been met. -/
inductive Argument
  /-- Two hyphens: the build options begin after it. -/
  | terminator
  /-- One of the program's own options, perhaps with a value after an equals sign. -/
  | option (option : ProgramOption) (attached : Option String)
  | buildOption
  deriving DecidableEq, Repr

def Argument.ofText (text : String) : Argument :=
  if text = "--" then .terminator
  else
    match ProgramOption.ofName? (String.ofList (text.toList.takeWhile (· ≠ '='))) with
    | none => .buildOption
    | some named =>
        match text.toList.dropWhile (· ≠ '=') with
        | [] => .option named none
        | _ :: value => .option named (String.ofList value)

namespace Invocation

/-- The options met so far. Each may be given once. -/
structure Given where
  makefile : Option String := none
  catalog : Option String := none
  dryRun : Bool := false
  printPlan : Bool := false
  verbose : Bool := false
  deriving DecidableEq, Repr

namespace Given

def request (given : Given) (tokens : List String) : Request where
  makefile := given.makefile.getD "Makefile"
  catalog := given.catalog
  dryRun := given.dryRun
  printPlan := given.printPlan
  verbose := given.verbose
  tokens := tokens

def turnOn? (given : Given) (option : ProgramOption) : Option Given :=
  match option with
  | .dryRun => if given.dryRun then none else some { given with dryRun := true }
  | .printPlan => if given.printPlan then none else some { given with printPlan := true }
  | .verbose => if given.verbose then none else some { given with verbose := true }
  | _ => none

def set? (given : Given) (option : ProgramOption) (value : String) : Option Given :=
  if value = "" then none
  else
    match option with
    | .makefile => if given.makefile.isSome then none else some { given with makefile := value }
    | .catalog => if given.catalog.isSome then none else some { given with catalog := value }
    | _ => none

end Given

/-- Reads the arguments that follow the options met so far. A request for help or for the version is
answered as soon as it is met. -/
def readFrom (given : Given) : List String → Invocation
  | [] => .run (given.request [])
  | argument :: rest =>
      match Argument.ofText argument with
      | .terminator => .run (given.request rest)
      | .buildOption => .run (given.request (argument :: rest))
      | .option .help none => .help
      | .option .version none => .version
      | .option option none =>
          if option.placeholder?.isNone then
            match given.turnOn? option with
            | none => .rejected
            | some given => readFrom given rest
          else
            match rest with
            | [] => .rejected
            | value :: rest =>
                if Argument.ofText value = .buildOption then
                  match given.set? option value with
                  | none => .rejected
                  | some given => readFrom given rest
                else .rejected
      | .option option (some value) =>
          match given.set? option value with
          | none => .rejected
          | some given => readFrom given rest

def ofArguments (arguments : List String) : Invocation := readFrom {} arguments

end Invocation

def programName : String := "kaplar_configure"

def versionText : String := programName ++ " 0.1.0\n"

/-- An option's line in the help text. The widest synopsis has 21 characters. -/
def ProgramOption.helpLine (option : ProgramOption) : String :=
  let synopsis :=
    match option.placeholder? with
    | none => option.name
    | some placeholder => option.name ++ " " ++ placeholder
  "      " ++ synopsis ++ String.ofList (List.replicate (23 - synopsis.length) ' ')
    ++ option.description

def helpText : String :=
  Text.block
    ([ "Generate the Makefile for the kaplar server",
       "",
       "Usage: " ++ programName ++ " [OPTIONS] [OPTION]...",
       "",
       "Arguments:",
       "  [OPTION]...  Build options such as `-linux -debug -o kaplar`",
       "",
       "Options:" ] ++ ProgramOption.all.map ProgramOption.helpLine)

end MakePlan
