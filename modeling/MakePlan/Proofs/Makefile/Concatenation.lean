import MakePlan.Proofs.Makefile.Fragment
import MakePlan.Proofs.Makefile.Lines

/-!
# Makefiles put together

A text whose last line is complete can be read apart from what is put after it. Only the commands at
the beginning of the second text depend on the first: they belong to its last rule.
-/

namespace MakePlan

set_option autoImplicit false

open Text

namespace Statement

def commandOn? : List Char → Option String
  | '\t' :: rest => if trim rest = [] then none else some (String.ofList (trim rest))
  | _ => none

theorem command?_of_plain_line (line : List Char) : (ofPlainLine line).command? = none := by
  unfold ofPlainLine
  split
  · rfl
  · split
    · rfl
    · split <;> rfl

theorem command?_of_line (line : List Char) : (ofLine line).command? = commandOn? line := by
  by_cases tab : line.head? = some '\t'
  · obtain ⟨rest, rfl⟩ := List.head?_eq_some_iff.1 tab
    rw [of_line_tab, ofRecipeLine, commandOn?]
    split <;> rfl
  · rw [of_line_of_not_tab tab, command?_of_plain_line]
    unfold commandOn?
    split
    · simp at tab
    · rfl

end Statement

namespace Makefile

def isRuleLine (line : List Char) : Bool := (Statement.ofLine line).isRule

/-- The commands on the logical lines before the first rule. -/
def leadingCommands (text : String) : List String :=
  ((logicalLines (lines text.toList)).takeWhile (!isRuleLine ·)).filterMap Statement.commandOn?

def laterCommands (text : String) : List String :=
  ((logicalLines (lines text.toList)).dropWhile (!isRuleLine ·)).filterMap Statement.commandOn?

/-- A text is complete when a new logical line begins after it: its last line is terminated and, but
for blanks, does not end in a backslash. -/
structure Complete (text : String) : Prop where
  terminated : text = "" ∨ text.toList.getLast? = some '\n'
  closed : ∀ row, (lines text.toList).getLast? = some row → isContinued row = false

theorem Complete.statements_append {front : String} (complete : Complete front) (rest : String) :
    statements (front ++ rest).toList = statements front.toList ++ statements rest.toList := by
  have terminated : front.toList = [] ∨ front.toList.getLast? = some '\n' :=
    complete.terminated.imp_left String.toList_eq_nil_iff.2
  rw [statements, String.toList_append, lines_append terminated,
    logical_lines_append complete.closed, List.map_append]
  rfl

theorem commands_statements (text : String) :
    (Fragment.ofStatements (statements text.toList)).commands = leadingCommands text ∧
      (read text).rules.flatMap (·.recipe) = laterCommands text := by
  obtain ⟨waiting, taken⟩ := Fragment.commands_of_statements (statements text.toList)
  have commands : ∀ rows : List (List Char),
      (rows.map Statement.ofLine).filterMap Statement.command? =
        rows.filterMap Statement.commandOn? := by
    intro rows
    rw [List.filterMap_map]
    congr 1
    funext line
    exact Statement.command?_of_line line
  constructor
  · rw [waiting, statements, List.takeWhile_map, commands]
    rfl
  · rw [read, taken, statements, List.dropWhile_map, commands]
    rfl

theorem read_append_eq {front : String} (complete : Complete front) (rest : String) :
    read (front ++ rest) =
      { assignments := (read front).assignments ++ (read rest).assignments
        rules := (read front).rules.modifyLast (·.extended (leadingCommands rest)) ++
          (read rest).rules } := by
  rw [read, complete.statements_append, Fragment.of_statements_append,
    ← (commands_statements rest).1]
  rfl

/-- The last assignment of a name counts, so the second part is asked first. -/
theorem value_of?_of_append {whole front rest : Makefile}
    (joined : whole.assignments = front.assignments ++ rest.assignments) (name : String) :
    whole.valueOf? name = (rest.valueOf? name).or (front.valueOf? name) := by
  rw [valueOf?, joined, List.reverse_append, List.find?_append, Option.map_or]
  rfl

/-- The first rule for a target counts, so the first part is asked first. Its last rule is found
together with the commands that it has taken. -/
theorem rule?_of_append {whole front rest : Makefile} {commands : List String}
    (joined : whole.rules = front.rules.modifyLast (·.extended commands) ++ rest.rules)
    (target : String) :
    whole.rule? target =
      ((front.rule? target).map fun rule =>
        if front.rules.dropLast.any (target ∈ ·.targets) then rule
        else rule.extended commands).or (rest.rule? target) := by
  rw [rule?, joined, List.find?_append, rule?, rule?]
  congr 1
  cases List.eq_nil_or_concat front.rules with
  | inl noRule => rw [noRule, modify_last_nil, List.find?_nil, Option.map_none]
  | inr someRule =>
      obtain ⟨earlier, last, rulesEq⟩ := someRule
      rw [List.concat_eq_append] at rulesEq
      rw [rulesEq, List.modifyLast_concat, List.dropLast_concat, List.find?_append,
        List.find?_append]
      -- A rule before the last one is found as it was; the last keeps its targets.
      cases found : earlier.find? (target ∈ ·.targets) with
      | some rule =>
          have namesTarget := List.find?_some found
          have stated : earlier.any (target ∈ ·.targets) = true :=
            List.any_eq_true.2 ⟨rule, List.mem_of_find?_eq_some found, namesTarget⟩
          rw [stated]
          rfl
      | none =>
          have notStated : earlier.any (target ∈ ·.targets) = false := by
            simpa using found
          rw [notStated, Option.none_or, Option.none_or]
          by_cases here : target ∈ last.targets
          · simp [here, Rule.extended]
          · simp [here, Rule.extended]

/-- A line that says nothing and ends where it stands: it is blank, or a comment. -/
def Idle (row : List Char) : Prop :=
  AllBlank row ∨ row.head? = some '#' ∧ isContinued row = false

theorem Idle.is_continued {row : List Char} (idle : Idle row) : isContinued row = false := by
  cases idle with
  | inl blank => rw [MakePlan.isContinued, trim_end_of_all_blank blank]; rfl
  | inr comment => exact comment.2

theorem Idle.of_line {row : List Char} (idle : Idle row) : Statement.ofLine row = .nothing := by
  cases idle with
  | inl blank => exact Statement.of_line_of_all_blank blank
  | inr comment =>
      obtain ⟨text, rfl⟩ := List.head?_eq_some_iff.1 comment.1
      rw [Statement.of_line_of_ink (by decide)]
      rfl

theorem statements_idle {row : String} (oneLine : '\n' ∉ row.toList) (idle : Idle row.toList)
    (rest : String) :
    statements (row ++ "\n" ++ rest).toList = .nothing :: statements rest.toList := by
  have textEq : (row ++ "\n" ++ rest).toList = row.toList ++ '\n' :: rest.toList := by simp
  rw [textEq, statements, lines_append_newline oneLine]
  change Statement.ofRows (row.toList :: lines rest.toList) = _
  rw [of_rows_cons_closed idle.is_continued, idle.of_line]
  rfl

theorem Complete.read_idle {front : String} (complete : Complete front) {row : String}
    (oneLine : '\n' ∉ row.toList) (idle : Idle row.toList) (rest : String) :
    read (front ++ row ++ "\n" ++ rest) = read (front ++ rest) := by
  have apart : front ++ row ++ "\n" ++ rest = front ++ (row ++ "\n" ++ rest) := by
    simp only [String.append_assoc]
  rw [read, read, apart, complete.statements_append, complete.statements_append,
    statements_idle oneLine idle, Fragment.of_statements_append, Fragment.of_statements_append]
  rfl

/-- Reading is compositional after a complete text. The assignments of both parts come one after the
other, and so do their rules, except that the commands with which the second part begins go to the
last rule of the first, or to none; the second part by itself keeps only its later commands. So a
variable has its value from the second part if it is assigned there, a target has its rule from the
first part if it is stated there, and an idle line between the parts changes nothing. -/
theorem read_append {front : String} (complete : Complete front) (rest : String) :
    let whole := read (front ++ rest)
    let before := read front
    let after := read rest
    whole.assignments = before.assignments ++ after.assignments ∧
    whole.rules = before.rules.modifyLast (·.extended (leadingCommands rest)) ++ after.rules ∧
    after.rules.flatMap (·.recipe) = laterCommands rest ∧
    (∀ name, whole.valueOf? name = (after.valueOf? name).or (before.valueOf? name)) ∧
    (∀ target rule, before.rule? target = some rule →
      whole.rule? target =
        some (if before.rules.dropLast.any (target ∈ ·.targets) then rule
          else rule.extended (leadingCommands rest))) ∧
    (∀ target, before.rule? target = none → whole.rule? target = after.rule? target) ∧
    ∀ row : String, '\n' ∉ row.toList → Idle row.toList →
      read (front ++ row ++ "\n" ++ rest) = whole := by
  intro whole before after
  have wholeEq : whole =
      { assignments := before.assignments ++ after.assignments
        rules := before.rules.modifyLast (·.extended (leadingCommands rest)) ++ after.rules } :=
    read_append_eq complete rest
  have assignments : whole.assignments = before.assignments ++ after.assignments := by
    rw [wholeEq]
  have rules : whole.rules =
      before.rules.modifyLast (·.extended (leadingCommands rest)) ++ after.rules := by
    rw [wholeEq]
  refine ⟨assignments, rules, (commands_statements rest).2, value_of?_of_append assignments, ?_, ?_,
    fun row oneLine idle => complete.read_idle oneLine idle rest⟩
  · intro target rule found
    rw [rule?_of_append rules, found]
    rfl
  · intro target noneFound
    rw [rule?_of_append rules, noneFound]
    rfl

/-- The second part begins with a folded command and has a comment before the next one. -/
theorem read_append_folded_command :
    Complete "a b:\n\tx\n" ∧
    (read ("a b:\n\tx\n" ++ "\ty \\\n z\n# c\n\tw\nv = 1\nb:\n\tu\n")).rule? "b" =
      some ⟨["a", "b"], [], ["x", "y   z", "w"]⟩ := by
  have complete : Complete "a b:\n\tx\n" := by
    constructor
    · decide
    · intro row last
      have rowEq : row = ['\t', 'x'] := Option.some.inj (last.symm.trans (by decide +kernel))
      rw [rowEq]
      decide
  refine ⟨complete, ?_⟩
  have lookUp := (read_append complete "\ty \\\n z\n# c\n\tw\nv = 1\nb:\n\tu\n").2.2.2.2.1
  rw [lookUp "b" ⟨["a", "b"], [], ["x"]⟩ (by decide +kernel)]
  decide +kernel

end Makefile

end MakePlan
