import MakePlan.CommandLine
import MakePlan.Proofs.Configuration.Grammar

/-!
# The grammar of the command line

An argument list asks for a run exactly if it is a list of the program's own options, each at most
once, with the build options behind them. Which request it makes does not depend on the order of the
options, and the build options go into it as they stand. A list asks for help or for the version
exactly if that option stands where the build options would begin.
-/

namespace MakePlan

set_option autoImplicit false

namespace ProgramOption

variable {option : ProgramOption} {name : String}

theorem of_name?_eq_some_iff : ofName? name = some option ↔ option.name = name := by
  constructor
  · intro found
    simpa using List.find?_some found
  · rintro rfl
    cases option <;> rfl

theorem head_name (option : ProgramOption) : option.name.toList.head? = some '-' := by
  cases option <;> rfl

theorem no_equals (option : ProgramOption) :
    ∀ c ∈ option.name.toList, decide (c ≠ '=') = true := by
  have absent : '=' ∉ option.name.toList := by
    cases option <;> decide
  intro c inside
  apply decide_eq_true
  rintro rfl
  exact absent inside

end ProgramOption

namespace Argument

variable {text value : String} {option : ProgramOption} {argument : Argument}

theorem of_text_name (option : ProgramOption) : ofText option.name = .option option none := by
  cases option <;> rfl

theorem of_text_attached (option : ProgramOption) (value : String) :
    ofText (option.name ++ "=" ++ value) = .option option (some value) := by
  have chars : (option.name ++ "=" ++ value).toList =
      option.name.toList ++ '=' :: value.toList := by
    simp
  have marked : option.name ++ "=" ++ value ≠ "--" := by
    intro same
    have inside : '=' ∈ (option.name ++ "=" ++ value).toList := by simp
    rw [same] at inside
    revert inside
    decide
  have found : ProgramOption.ofName? option.name = some option :=
    ProgramOption.of_name?_eq_some_iff.2 rfl
  rw [ofText, if_neg marked, chars, List.takeWhile_append_of_pos option.no_equals,
    List.dropWhile_append_of_pos option.no_equals]
  simp [found]

/-- The shapes an argument in front of the build options can have, each with what it is read as. -/
inductive Spelling : String → Argument → Prop
  | terminator : Spelling "--" .terminator
  | alone (option : ProgramOption) : Spelling option.name (.option option none)
  | attached (option : ProgramOption) (value : String) :
      Spelling (option.name ++ "=" ++ value) (.option option (some value))
  | buildOption (text : String) : Spelling text .buildOption

theorem spelling_of_text (found : ofText text = argument) : Spelling text argument := by
  subst found
  have whole : text.toList.takeWhile (· ≠ '=') ++ text.toList.dropWhile (· ≠ '=') = text.toList :=
    List.takeWhile_append_dropWhile
  unfold ofText
  split
  · rename_i same
    rw [same]
    exact .terminator
  split
  · exact .buildOption text
  · rename_i named found
    have name := ProgramOption.of_name?_eq_some_iff.1 found
    split
    · rename_i nothing
      rw [nothing, List.append_nil] at whole
      have same : text = named.name := by
        rw [name, whole, String.ofList_toList]
      rw [same]
      exact .alone named
    · rename_i mark value rest
      have equals : mark = '=' := by
        have head := List.head?_dropWhile_not (· ≠ '=') text.toList
        rw [rest] at head
        simpa using head
      have same : text = named.name ++ "=" ++ String.ofList value := by
        rw [rest, equals] at whole
        apply String.toList_injective
        rw [String.toList_append, String.toList_append, name, String.toList_ofList,
          String.toList_ofList]
        simpa using whole.symm
      rw [same]
      exact .attached named _

def OptionLike (text : String) : Prop :=
  text = "--" ∨ ∃ option : ProgramOption, text = option.name ∨
    ∃ value, text = option.name ++ "=" ++ value

theorem of_text_eq_build_option_iff : ofText text = .buildOption ↔ ¬ OptionLike text := by
  constructor
  · rintro plain (rfl | ⟨option, rfl | ⟨value, rfl⟩⟩)
    · contradiction
    · simp [of_text_name] at plain
    · simp [of_text_attached] at plain
  · intro plain
    generalize found : ofText text = argument
    cases spelling_of_text found with
    | terminator => exact absurd (.inl rfl) plain
    | alone option => exact absurd (.inr ⟨option, .inl rfl⟩) plain
    | attached option value => exact absurd (.inr ⟨option, .inr ⟨value, rfl⟩⟩) plain
    | buildOption => rfl

theorem not_option_like_of_unhyphened (unhyphened : text.toList.head? ≠ some '-') :
    ¬ OptionLike text := by
  rintro (rfl | ⟨option, rfl | ⟨value, rfl⟩⟩)
  · exact unhyphened rfl
  · exact unhyphened option.head_name
  · apply unhyphened
    rw [String.append_assoc, String.toList_append, List.head?_append, option.head_name]
    rfl

/-- No flag is spelled like one of the program's own options. -/
theorem not_option_like_of_named (named : Flag.Named text) : ¬ OptionLike text := by
  have flags : ∀ flag ∈ Flag.all, ofText flag.name = .buildOption := by decide
  obtain ⟨flag, listed, rfl⟩ := named
  exact of_text_eq_build_option_iff.1 (flags flag listed)

end Argument

/-- The value of an option, as an argument list gives it. It is never empty. -/
inductive Operand
  /-- The next argument, as long as that is not spelled like an option itself. -/
  | next (path : String) (filled : path ≠ "") (plain : ¬ Argument.OptionLike path)
  /-- What stands in the option's own argument behind an equals sign. -/
  | attached (path : String) (filled : path ≠ "")

namespace Operand

def ofUnhyphened (path : String) (filled : path ≠ "") (unhyphened : path.toList.head? ≠ some '-') :
    Operand :=
  .next path filled (Argument.not_option_like_of_unhyphened unhyphened)

def path : Operand → String
  | next path _ _ => path
  | attached path _ => path

theorem path_ne_empty (operand : Operand) : operand.path ≠ "" := by
  cases operand with
  | next path filled plain => exact filled
  | attached path filled => exact filled

def arguments (name : String) : Operand → List String
  | next path _ _ => [name, path]
  | attached path _ => [name ++ "=" ++ path]

end Operand

/-- One of the program's own options as an argument list gives it. Those that ask for help or for
the version are left out, since no request comes of them. -/
inductive Directive
  | makefile (operand : Operand)
  | catalog (operand : Operand)
  | dryRun
  | printPlan
  | verbose

namespace Directive

def option : Directive → ProgramOption
  | makefile _ => .makefile
  | catalog _ => .catalog
  | dryRun => .dryRun
  | printPlan => .printPlan
  | verbose => .verbose

def arguments : Directive → List String
  | makefile operand => operand.arguments "--makefile"
  | catalog operand => operand.arguments "--catalog"
  | dryRun => ["--dry-run"]
  | printPlan => ["--print-plan"]
  | verbose => ["--verbose"]

def Once (directives : List Directive) : Prop := (directives.map option).Nodup

def makefilePath? : Directive → Option String
  | makefile operand => some operand.path
  | _ => none

def catalogPath? : Directive → Option String
  | catalog operand => some operand.path
  | _ => none

end Directive

/-- How build options end an argument list. They begin at the first argument that is none of the
program's own options, or after two hyphens. -/
inductive BuildPart : List String → List String → Prop
  | none : BuildPart [] []
  | plain {first : String} (begins : ¬ Argument.OptionLike first) (rest : List String) :
      BuildPart (first :: rest) (first :: rest)
  | marked (tokens : List String) : BuildPart ("--" :: tokens) tokens

/-- The request that some options and build options make. -/
def Request.ofDirectives (directives : List Directive) (tokens : List String) : Request where
  makefile := (directives.findSome? Directive.makefilePath?).getD "Makefile"
  catalog := directives.findSome? Directive.catalogPath?
  dryRun := directives.any (·.option = .dryRun)
  printPlan := directives.any (·.option = .printPlan)
  verbose := directives.any (·.option = .verbose)
  tokens := tokens

def commandLine (directives : List Directive) (closing : List String) : List String :=
  directives.flatMap Directive.arguments ++ closing

/-- What comes behind the options that make a request, and what is asked for then. Behind a wish for
help or for the version anything may stand. -/
inductive Closing (request : List String → Request) : List String → Invocation → Prop
  | run {tail tokens : List String} (part : BuildPart tail tokens) :
      Closing request tail (.run (request tokens))
  | help (rest : List String) : Closing request ("--help" :: rest) .help
  | version (rest : List String) : Closing request ("--version" :: rest) .version

/-- What an argument list asks for, by the options in it. -/
def Asks (arguments : List String) (invocation : Invocation) : Prop :=
  ∃ directives closing, Directive.Once directives ∧ arguments = commandLine directives closing ∧
    Closing (Request.ofDirectives directives) closing invocation

theorem BuildPart.of_named {tokens : List String}
    (named : ∀ first ∈ tokens.head?, Flag.Named first) : BuildPart tokens tokens := by
  cases tokens with
  | nil => exact .none
  | cons first rest => exact .plain (Argument.not_option_like_of_named (named first rfl)) rest

namespace Invocation

variable {given after : Given} {directive : Directive} {directives : List Directive}
variable {option : ProgramOption} {path : String} {arguments closing tail tokens : List String}
variable {invocation : Invocation}

namespace Given

def add (given : Given) : Directive → Given
  | .makefile operand => { given with makefile := operand.path }
  | .catalog operand => { given with catalog := operand.path }
  | .dryRun => { given with dryRun := true }
  | .printPlan => { given with printPlan := true }
  | .verbose => { given with verbose := true }

def Lacks (given : Given) : ProgramOption → Prop
  | .makefile => given.makefile = none
  | .catalog => given.catalog = none
  | .dryRun => given.dryRun = false
  | .printPlan => given.printPlan = false
  | .verbose => given.verbose = false
  | .help | .version => True

theorem lacks_add_iff :
    (given.add directive).Lacks option ↔ directive.option ≠ option ∧ given.Lacks option := by
  cases directive <;> cases option <;> simp [add, Lacks, Directive.option]

theorem add_comm {first second : Directive} (apart : first.option ≠ second.option) :
    (given.add first).add second = (given.add second).add first := by
  cases first <;> cases second <;> simp_all [add, Directive.option]

theorem exists_directive_of_turn_on? (done : given.turnOn? option = some after) :
    ∃ directive : Directive, directive.option = option ∧ directive.arguments = [option.name] ∧
      given.Lacks option ∧ given.add directive = after := by
  cases option with
  | dryRun =>
      rw [turnOn?, Option.ite_none_left_eq_some, Option.some.injEq] at done
      exact ⟨.dryRun, rfl, rfl, by simpa [Lacks] using done.1, done.2⟩
  | printPlan =>
      rw [turnOn?, Option.ite_none_left_eq_some, Option.some.injEq] at done
      exact ⟨.printPlan, rfl, rfl, by simpa [Lacks] using done.1, done.2⟩
  | verbose =>
      rw [turnOn?, Option.ite_none_left_eq_some, Option.some.injEq] at done
      exact ⟨.verbose, rfl, rfl, by simpa [Lacks] using done.1, done.2⟩
  | _ => simp [turnOn?] at done

theorem filled_of_set? (done : given.set? option path = some after) : path ≠ "" := by
  rintro rfl
  simp [set?] at done

theorem exists_directive_of_set? (operand : Operand)
    (done : given.set? option operand.path = some after) :
    ∃ directive : Directive, directive.option = option ∧
      directive.arguments = operand.arguments option.name ∧ given.Lacks option ∧
      given.add directive = after := by
  have filled := filled_of_set? done
  unfold set? at done
  rw [if_neg filled] at done
  cases option with
  | makefile =>
      simp only [Option.ite_none_left_eq_some, Option.some.injEq] at done
      exact ⟨.makefile operand, rfl, rfl, by simpa [Lacks] using done.1, done.2⟩
  | catalog =>
      simp only [Option.ite_none_left_eq_some, Option.some.injEq] at done
      exact ⟨.catalog operand, rfl, rfl, by simpa [Lacks] using done.1, done.2⟩
  | _ => simp at done

end Given

theorem read_from_switch (option : ProgramOption) (done : given.turnOn? option = some after)
    (rest : List String) :
    readFrom given (option.name :: rest) = readFrom after rest := by
  rw [readFrom, Argument.of_text_name]
  cases option with
  | dryRun | printPlan | verbose => simp [ProgramOption.placeholder?, done]
  | _ => simp [Given.turnOn?] at done

theorem read_from_operand (option : ProgramOption) (operand : Operand)
    (done : given.set? option operand.path = some after) (rest : List String) :
    readFrom given (operand.arguments option.name ++ rest) = readFrom after rest := by
  cases operand with
  | next path filled plain =>
      rw [Operand.arguments, List.cons_append, List.singleton_append, readFrom,
        Argument.of_text_name]
      cases option with
      | makefile | catalog =>
          rw [Operand.path] at done
          simp [ProgramOption.placeholder?, Argument.of_text_eq_build_option_iff.2 plain, done]
      | _ => simp [Given.set?] at done
  | attached path filled =>
      rw [Operand.path] at done
      rw [Operand.arguments, List.singleton_append, readFrom, Argument.of_text_attached]
      simp [done]

theorem read_from_directive (lacking : given.Lacks directive.option) (rest : List String) :
    readFrom given (directive.arguments ++ rest) = readFrom (given.add directive) rest := by
  cases directive with
  | makefile operand =>
      apply read_from_operand .makefile
      simpa [Given.set?, operand.path_ne_empty, Given.add, Directive.option, Given.Lacks]
        using lacking
  | catalog operand =>
      apply read_from_operand .catalog
      simpa [Given.set?, operand.path_ne_empty, Given.add, Directive.option, Given.Lacks]
        using lacking
  | dryRun =>
      apply read_from_switch .dryRun
      simpa [Given.turnOn?, Given.add, Directive.option, Given.Lacks] using lacking
  | printPlan =>
      apply read_from_switch .printPlan
      simpa [Given.turnOn?, Given.add, Directive.option, Given.Lacks] using lacking
  | verbose =>
      apply read_from_switch .verbose
      simpa [Given.turnOn?, Given.add, Directive.option, Given.Lacks] using lacking

def Given.Fresh (given : Given) : List Directive → Prop
  | [] => True
  | directive :: rest => given.Lacks directive.option ∧ (given.add directive).Fresh rest

theorem Given.fresh_iff :
    given.Fresh directives ↔
      Directive.Once directives ∧ ∀ directive ∈ directives, given.Lacks directive.option := by
  induction directives generalizing given with
  | nil => simp [Fresh, Directive.Once]
  | cons first rest induction =>
      simp only [Fresh, induction, Given.lacks_add_iff, Directive.Once, List.map_cons,
        List.nodup_cons, List.mem_map, List.forall_mem_cons]
      constructor
      · rintro ⟨lacking, once, others⟩
        refine ⟨⟨?_, once⟩, lacking, fun other inside => (others other inside).2⟩
        rintro ⟨other, inside, same⟩
        exact (others other inside).1 same.symm
      · rintro ⟨⟨unlike, once⟩, lacking, others⟩
        refine ⟨lacking, once, fun other inside => ⟨?_, others other inside⟩⟩
        intro same
        exact unlike ⟨other, inside, same.symm⟩

theorem read_from_directives (fresh : given.Fresh directives) (rest : List String) :
    readFrom given (directives.flatMap Directive.arguments ++ rest) =
      readFrom (directives.foldl Given.add given) rest := by
  induction directives generalizing given with
  | nil => rfl
  | cons directive others induction =>
      rw [List.flatMap_cons, List.append_assoc, read_from_directive fresh.1, induction fresh.2,
        List.foldl_cons]

theorem read_from_closing (closes : Closing given.request closing invocation) :
    readFrom given closing = invocation := by
  cases closes with
  | run part =>
      cases part with
      | none => rfl
      | plain begins rest => rw [readFrom, Argument.of_text_eq_build_option_iff.2 begins]
      | marked tokens => rfl
  | help rest => rw [readFrom, show Argument.ofText "--help" = _ from Argument.of_text_name .help]
  | version rest =>
      rw [readFrom, show Argument.ofText "--version" = _ from Argument.of_text_name .version]

/-- The arguments are options that were not given before, with something behind them that makes the
invocation. -/
def Given.Asks (given : Given) (arguments : List String) (invocation : Invocation) : Prop :=
  ∃ directives closing, given.Fresh directives ∧
    arguments = directives.flatMap Directive.arguments ++ closing ∧
    Closing (directives.foldl Given.add given).request closing invocation

theorem Given.asks_closing (closes : Closing given.request closing invocation) :
    given.Asks closing invocation :=
  ⟨[], closing, trivial, rfl, closes⟩

theorem Given.asks_directive (lacking : given.Lacks directive.option)
    (asks : (given.add directive).Asks arguments invocation) :
    given.Asks (directive.arguments ++ arguments) invocation := by
  obtain ⟨directives, closing, fresh, rfl, closes⟩ := asks
  refine ⟨directive :: directives, closing, ⟨lacking, fresh⟩, ?_, closes⟩
  rw [List.flatMap_cons, List.append_assoc]

theorem Given.asks_switch (done : given.turnOn? option = some after)
    (asks : after.Asks arguments invocation) :
    given.Asks (option.name :: arguments) invocation := by
  obtain ⟨directive, rfl, same, lacking, rfl⟩ := Given.exists_directive_of_turn_on? done
  have longer := asks_directive lacking asks
  rw [same] at longer
  exact longer

theorem Given.asks_operand (operand : Operand) (done : given.set? option operand.path = some after)
    (asks : after.Asks arguments invocation) :
    given.Asks (operand.arguments option.name ++ arguments) invocation := by
  obtain ⟨directive, rfl, same, lacking, rfl⟩ := Given.exists_directive_of_set? operand done
  have longer := asks_directive lacking asks
  rw [same] at longer
  exact longer

theorem asks_of_read_from (accepted : readFrom given arguments ≠ .rejected) :
    given.Asks arguments (readFrom given arguments) := by
  induction given, arguments using readFrom.induct with
  | case1 given => exact Given.asks_closing (.run .none)
  | case2 given argument rest found =>
      rw [readFrom, found]
      cases Argument.spelling_of_text found
      exact Given.asks_closing (.run (.marked rest))
  | case3 given argument rest begins =>
      rw [readFrom, begins]
      exact Given.asks_closing (.run (.plain (Argument.of_text_eq_build_option_iff.1 begins) rest))
  | case4 given argument rest found =>
      rw [readFrom, found]
      cases Argument.spelling_of_text found
      exact Given.asks_closing (.help rest)
  | case5 given argument rest found =>
      rw [readFrom, found]
      cases Argument.spelling_of_text found
      exact Given.asks_closing (.version rest)
  | case6 given argument rest option noHelp noVersion found switch refused =>
      simp [readFrom, found, switch, refused] at accepted
  | case7 given argument rest option noHelp noVersion found switch after done induction =>
      have onward : readFrom given (argument :: rest) = readFrom after rest := by
        simp only [readFrom, found, switch, done, if_true]
      rw [onward] at accepted ⊢
      cases Argument.spelling_of_text found
      exact Given.asks_switch done (induction accepted)
  | case8 given argument option noHelp noVersion found takes =>
      simp [readFrom, found, takes] at accepted
  | case9 given argument option noHelp noVersion found takes path rest plain refused =>
      simp [readFrom, found, takes, plain, refused] at accepted
  | case10 given argument option noHelp noVersion found takes path rest plain after done
      induction =>
      have onward : readFrom given (argument :: path :: rest) = readFrom after rest := by
        simp only [readFrom, found, takes, plain, done, if_true]
        rfl
      rw [onward] at accepted ⊢
      cases Argument.spelling_of_text found
      have unlike := Argument.of_text_eq_build_option_iff.1 plain
      exact Given.asks_operand (.next path (Given.filled_of_set? done) unlike) done
        (induction accepted)
  | case11 given argument option noHelp noVersion found takes path rest marked =>
      simp [readFrom, found, takes, marked] at accepted
  | case12 given argument rest option path found refused =>
      simp [readFrom, found, refused] at accepted
  | case13 given argument rest option path found after done induction =>
      have onward : readFrom given (argument :: rest) = readFrom after rest := by
        simp only [readFrom, found, done]
      rw [onward] at accepted ⊢
      cases Argument.spelling_of_text found
      exact Given.asks_operand (.attached path (Given.filled_of_set? done)) done
        (induction accepted)

theorem Given.foldl_add (fresh : given.Fresh directives) :
    directives.foldl Given.add given =
      { makefile := given.makefile.or (directives.findSome? Directive.makefilePath?)
        catalog := given.catalog.or (directives.findSome? Directive.catalogPath?)
        dryRun := given.dryRun || directives.any (·.option = .dryRun)
        printPlan := given.printPlan || directives.any (·.option = .printPlan)
        verbose := given.verbose || directives.any (·.option = .verbose) } := by
  induction directives generalizing given with
  | nil => simp
  | cons directive rest induction =>
      have lacking := fresh.1
      rw [List.foldl_cons, induction fresh.2]
      cases directive <;>
        simp_all [Given.add, Given.Lacks, List.findSome?_cons, Directive.option,
          Directive.makefilePath?, Directive.catalogPath?]

theorem fresh_empty_iff : ({} : Given).Fresh directives ↔ Directive.Once directives := by
  rw [Given.fresh_iff]
  simp only [and_iff_left_iff_imp]
  intro once directive inside
  cases directive <;> rfl

/-- Reading the options one by one comes to the request that they make together. -/
theorem request_foldl (once : Directive.Once directives) :
    (directives.foldl Given.add {}).request = Request.ofDirectives directives := by
  funext tokens
  rw [Given.foldl_add (fresh_empty_iff.2 once)]
  simp [Given.request, Request.ofDirectives]

end Invocation

section Requests

variable {directives front back : List Directive} {arguments tail tokens : List String}
variable {invocation other : Invocation}

theorem asks_iff :
    Asks arguments invocation ↔
      Invocation.ofArguments arguments = invocation ∧ invocation ≠ .rejected := by
  constructor
  · rintro ⟨directives, closing, once, rfl, closes⟩
    have accepted : invocation ≠ .rejected := by
      cases closes <;> simp
    rw [← Invocation.request_foldl once] at closes
    rw [Invocation.ofArguments, commandLine,
      Invocation.read_from_directives (Invocation.fresh_empty_iff.2 once)]
    exact ⟨Invocation.read_from_closing closes, accepted⟩
  · rintro ⟨rfl, accepted⟩
    obtain ⟨directives, closing, fresh, same, closes⟩ := Invocation.asks_of_read_from accepted
    have once := Invocation.fresh_empty_iff.1 fresh
    rw [Invocation.request_foldl once] at closes
    exact ⟨directives, closing, once, same, closes⟩

theorem Asks.of_arguments (asks : Asks arguments invocation) :
    Invocation.ofArguments arguments = invocation :=
  (asks_iff.1 asks).1

/-- An argument list asks for one thing at most. -/
theorem Asks.unique (asks : Asks arguments invocation) (asksOther : Asks arguments other) :
    invocation = other :=
  asks.of_arguments.symm.trans asksOther.of_arguments

theorem rejected_iff :
    Invocation.ofArguments arguments = .rejected ↔ ∀ invocation, ¬ Asks arguments invocation := by
  constructor
  · intro rejected invocation asks
    obtain ⟨same, accepted⟩ := asks_iff.1 asks
    exact accepted (same.symm.trans rejected)
  · intro nothing
    refine Decidable.byContradiction fun accepted => ?_
    exact nothing _ (asks_iff.2 ⟨rfl, accepted⟩)

theorem asks_command_line (once : Directive.Once directives) (part : BuildPart tail tokens) :
    Asks (commandLine directives tail) (.run (Request.ofDirectives directives tokens)) :=
  ⟨directives, tail, once, rfl, .run part⟩

theorem Directive.Once.perm {others : List Directive} (once : Once directives)
    (reordered : directives.Perm others) : Once others :=
  (reordered.map option).nodup_iff.1 once

theorem Invocation.Given.foldl_add_perm {given : Given} {others : List Directive}
    (once : Directive.Once directives) (reordered : directives.Perm others) :
    directives.foldl add given = others.foldl add given := by
  induction reordered generalizing given with
  | nil => rfl
  | cons directive rest induction => exact induction (List.nodup_cons.1 once).2
  | swap first second rest =>
      have apart : second.option ≠ first.option := by
        intro same
        apply (List.nodup_cons.1 once).1
        rw [same]
        exact List.mem_cons_self
      rw [List.foldl_cons, List.foldl_cons, List.foldl_cons, List.foldl_cons, add_comm apart]
  | trans front back induction inductionBack =>
      exact (induction once).trans (inductionBack (once.perm front))

theorem Request.of_directives_perm {others : List Directive} (once : Directive.Once directives)
    (reordered : directives.Perm others) :
    ofDirectives directives tokens = ofDirectives others tokens := by
  rw [← Invocation.request_foldl once, ← Invocation.request_foldl (once.perm reordered),
    Invocation.Given.foldl_add_perm once reordered]

/-- Wherever it stands among the options, the one for a dry run does nothing else. -/
theorem Request.of_directives_dry_run :
    ofDirectives (front ++ .dryRun :: back) tokens =
      { ofDirectives (front ++ back) tokens with dryRun := true } := by
  simp [ofDirectives, List.findSome?_append, List.findSome?_cons, Directive.option,
    Directive.makefilePath?, Directive.catalogPath?]

section DryRun

variable (once : Directive.Once (front ++ .dryRun :: back))

include once

theorem Directive.Once.without_dry_run : Once (front ++ back) := by
  have moved := once.perm List.perm_middle
  exact (List.nodup_cons.1 moved).2

theorem Request.dry_run_of_directives : (ofDirectives (front ++ back) tokens).dryRun = false := by
  have moved := once.perm List.perm_middle
  apply List.any_eq_false.2
  intro directive inside same
  apply (List.nodup_cons.1 moved).1
  rw [Directive.option, ← of_decide_eq_true same]
  exact List.mem_map_of_mem inside

end DryRun

end Requests

end MakePlan
