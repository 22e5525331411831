import MakePlan.Proofs.CommandLine
import MakePlan.Proofs.Run.Stages

/-!
# Build options in a run

From the first flag on, every argument is a build option and none is an option of the program, so
the options in front settle how a run is carried out and the build options only what it is about.
-/

namespace MakePlan

set_option autoImplicit false

open MakePlan.Configuration

variable {system : FileSystem} {directives : List Directive} {arguments tokens : List String}

/-- The run refuses its build options: it prints nothing but notices, and no file changes. -/
def Refuses (system : FileSystem) (arguments : List String) : Prop :=
  (run system arguments).1.code = 2 ∧ (run system arguments).1.stdout = "" ∧
    (run system arguments).2 = system

theorem refuses_of_unknown_option {request : Request} {before rest : List String} {token : String}
    (asked : Asks arguments (.run request))
    (tokensEq : request.tokens = before ++ token :: rest) (wellFormed : WellFormed before)
    (foreign : ¬ Flag.Named token) : Refuses system arguments := by
  have refused : ofTokens request.tokens = .error (.unknownOption token) := by
    apply of_tokens_eq_unknown_option_iff.2
    exact ⟨before, rest, by simp [tokensEq], wellFormed, foreign⟩
  rw [Refuses, Request.run_eq_carry_out asked, refused]
  exact ⟨rfl, rfl, rfl⟩

theorem Request.carry_out_of_directives (parsed : Except Failure Configuration) :
    (ofDirectives directives tokens).carryOut system parsed =
      (ofDirectives directives []).carryOut system parsed := by
  cases parsed <;> rfl

/-- Options of the program and then build options that begin with a flag: the options, in any order,
make the request, and the build options reach their reader as they stand. If one of them is spelled
like an option of the program, it is the value of the flag before it, or the run refuses it as an
unknown option, unless it refuses one before it. -/
theorem run_command_line (system : FileSystem) (directives : List Directive) (first : String)
    (rest : List String) (once : Directive.Once directives) (named : Flag.Named first) :
    let tokens := first :: rest
    let arguments := commandLine directives tokens
    Invocation.ofArguments arguments = .run (Request.ofDirectives directives tokens) ∧
    run system arguments =
      (Request.ofDirectives directives []).carryOut system (ofTokens tokens) ∧
    (∀ reordered, directives.Perm reordered →
      run system (commandLine reordered tokens) = run system arguments) ∧
    (∀ before token after, tokens = before ++ token :: after →
      Argument.OptionLike token →
      (∃ front name slot configuration, before = front ++ [name] ∧ Flag.Fills name slot ∧
        ofTokens front = .ok configuration ∧
        ofTokens (before ++ [token]) = .ok (configuration.assign (.write slot token))) ∨
      (WellFormed before ∧ Refuses system arguments) ∨
      (∃ front offence others, before = front ++ offence :: others ∧ WellFormed front ∧
        ¬ Flag.Named offence ∧ Refuses system arguments)) := by
  intro tokens arguments
  have part : BuildPart tokens tokens := .plain (Argument.not_option_like_of_named named) rest
  have asked : Asks arguments (.run (Request.ofDirectives directives tokens)) :=
    asks_command_line once part
  refine ⟨asked.of_arguments, ?_, ?_, ?_⟩
  · rw [Request.run_eq_carry_out asked]
    exact Request.carry_out_of_directives _
  · intro reordered order
    have askedReordered : Asks (commandLine reordered tokens)
        (.run (Request.ofDirectives directives tokens)) := by
      rw [Request.of_directives_perm once order]
      exact asks_command_line (once.perm order) part
    rw [Request.run_eq_carry_out askedReordered, Request.run_eq_carry_out asked]
  · intro before token after split optionLike
    have foreign : ¬ Flag.Named token := fun named =>
      Argument.not_option_like_of_named named optionLike
    rcases position_cases before with wellFormed |
      ⟨front, name, slot, rfl, wellFormed, fills⟩ |
      ⟨front, offence, others, rfl, wellFormed, unknown⟩
    · exact .inr (.inl ⟨wellFormed, refuses_of_unknown_option asked split wellFormed foreign⟩)
    · obtain ⟨configuration, accepted⟩ := exists_of_tokens_iff.2 wellFormed
      exact .inl ⟨front, name, slot, configuration, rfl, fills, accepted,
        of_tokens_value accepted fills token⟩
    · have splitEarlier : tokens = front ++ offence :: (others ++ token :: after) := by
        rw [split, List.append_assoc, List.cons_append]
      exact .inr (.inr ⟨front, offence, others, rfl, wellFormed, unknown,
        refuses_of_unknown_option asked splitEarlier wellFormed unknown⟩)

/-- All options of the program in front, in two orders. Behind the first flag, two of them are
values and the third is unknown. -/
theorem run_command_line_spelled_alike :
    let system : FileSystem :=
      { directories := [["work"]], files := [], workingDirectory := ["work"] }
    let tokens := ["-o", "--dry-run", "-srcdir", "--catalog", "--help", "--version"]
    let arguments :=
      ["--verbose", "--makefile", "out", "--dry-run", "--catalog=c.toml", "--print-plan"] ++ tokens
    Invocation.ofArguments arguments =
      .run
        { makefile := "out", catalog := some "c.toml", dryRun := true, printPlan := true,
          verbose := true, tokens } ∧
    Refuses system arguments ∧
    run system
        (["--print-plan", "--catalog=c.toml", "--dry-run", "--makefile", "out", "--verbose"]
          ++ tokens) =
      run system arguments ∧
    ofTokens ["-o", "--dry-run"] = .ok { output := "--dry-run" } := by
  intro system tokens arguments
  let output : Operand := .ofUnhyphened "out" (by decide) (by decide)
  let catalog : Operand := .attached "c.toml" (by decide)
  let directives : List Directive :=
    [.verbose, .makefile output, .dryRun, .catalog catalog, .printPlan]
  have once : Directive.Once directives := by
    simp [directives, Directive.Once, Directive.option]
  obtain ⟨asked, -, same, positions⟩ := run_command_line system directives "-o"
    ["--dry-run", "-srcdir", "--catalog", "--help", "--version"] once
    (by simp [Flag.Named, Flag.all])
  have spelled : commandLine directives tokens = arguments := by
    simp [directives, arguments, commandLine, Directive.arguments, Operand.arguments, output,
      catalog, Operand.ofUnhyphened]
  have spelledReverse : commandLine directives.reverse tokens =
      ["--print-plan", "--catalog=c.toml", "--dry-run", "--makefile", "out", "--verbose"]
        ++ tokens := by
    simp [directives, commandLine, Directive.arguments, Operand.arguments, output, catalog,
      Operand.ofUnhyphened]
  have sameReverse := same directives.reverse (List.reverse_perm directives).symm
  rw [spelled] at asked positions sameReverse
  rw [spelledReverse] at sameReverse
  refine ⟨asked, ?_, sameReverse, rfl⟩
  have helpLike : Argument.OptionLike "--help" := .inr ⟨.help, .inl rfl⟩
  have catalogLike : Argument.OptionLike "--catalog" := .inr ⟨.catalog, .inl rfl⟩
  rcases positions ["-o", "--dry-run", "-srcdir", "--catalog"] "--help" ["--version"] rfl
      helpLike with
    ⟨front, name, slot, configuration, split, fills, -⟩ | ⟨-, refuses⟩ | ⟨_, _, _, -, -, -, refuses⟩
  · have last : "--catalog" = name := by
      simpa using congrArg List.getLast? split
    exact absurd catalogLike (Argument.not_option_like_of_named (last ▸ fills.named))
  · exact refuses
  · exact refuses

end MakePlan
