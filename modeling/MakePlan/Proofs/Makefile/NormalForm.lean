import MakePlan.Makefile.Printer
import MakePlan.Proofs.Makefile.Fragment
import MakePlan.Proofs.Makefile.Statement

/-!
# Makefiles in normal form

What a Makefile may consist of: names, words and commands that a line can hold. Such an item is said
by its rows in the plain layout, one statement a row.
-/

namespace MakePlan

set_option autoImplicit false

open Text

/-- An assignment with a name, and with a value of words a single space apart. -/
structure Variable.Normal (assigned : Variable) : Prop where
  named : assigned.name ≠ ""
  nameChars : ∀ c ∈ assigned.name.toList, Statement.isNameChar c = true
  words : ∃ list : List String,
    (∀ word ∈ list, IsWord word.toList) ∧ assigned.value = " ".intercalate list

/-- A command on one line, without blanks around it. -/
structure NormalCommand (command : String) : Prop where
  nonempty : command ≠ ""
  firstInk : command.toList.head?.any isBlank = false
  lastInk : command.toList.getLast?.any isBlank = false
  oneLine : '\n' ∉ command.toList

/-- A rule with a target. The targets are free of the marks that end them, and the first one does
not make the rule a comment. -/
structure Rule.Normal (rule : Rule) : Prop where
  stated : rule.targets ≠ []
  targets : ∀ target ∈ rule.targets,
    IsWord target.toList ∧ ':' ∉ target.toList ∧ '=' ∉ target.toList
  prerequisites : ∀ prerequisite ∈ rule.prerequisites, IsWord prerequisite.toList
  noComment : ∀ first ∈ rule.targets.head?, first.toList.head? ≠ some '#'
  recipe : ∀ command ∈ rule.recipe, NormalCommand command

structure Makefile.Normal (makefile : Makefile) : Prop where
  assignments : ∀ assigned ∈ makefile.assignments, assigned.Normal
  rules : ∀ stated ∈ makefile.rules, stated.Normal

theorem one_line_of_words {list : List (List Char)} (areWords : ∀ word ∈ list, IsWord word) :
    '\n' ∉ unwords list := by
  intro inside
  cases mem_unwords inside with
  | inl space => exact absurd space (by decide)
  | inr inWord =>
      obtain ⟨word, wordInside, feed⟩ := inWord
      exact no_newline_of_ink (areWords word wordInside).2 feed

namespace Variable

variable {assigned : Variable}

theorem Normal.exists_words (normal : assigned.Normal) :
    ∃ list : List (List Char),
      (∀ word ∈ list, IsWord word) ∧ assigned.value.toList = unwords list := by
  obtain ⟨list, areWords, valueEq⟩ := normal.words
  refine ⟨list.map String.toList, List.forall_mem_map.2 areWords, ?_⟩
  rw [valueEq, to_list_intercalate]

theorem Normal.no_char_in_name (normal : assigned.Normal) {c : Char}
    (other : Statement.isNameChar c = false) : c ∉ assigned.name.toList := by
  intro inside
  have nameChar := normal.nameChars c inside
  rw [other] at nameChar
  contradiction

theorem Normal.of_line_row (normal : assigned.Normal) :
    Statement.ofLine (assigned.name ++ " = " ++ assigned.value).toList = .assignment assigned := by
  obtain ⟨list, areWords, valueEq⟩ := normal.exists_words
  have named : assigned.name.toList ≠ [] := by
    intro empty
    exact normal.named (String.toList_eq_nil_iff.1 empty)
  have rowEq : (assigned.name ++ " = " ++ assigned.value).toList =
      assigned.name.toList ++ ([' '] ++ '=' :: (' ' :: assigned.value.toList)) := by
    simp
  have valueAgain :
      unwords (Text.words (' ' :: assigned.value.toList)) = assigned.value.toList := by
    rw [words_cons_blank is_blank_space, valueEq, words_unwords areWords]
  rw [rowEq, Statement.of_line_assignment named normal.nameChars (by simp [AllBlank]), valueAgain,
    String.ofList_toList, String.ofList_toList]

theorem Normal.intercalate_words_of (normal : assigned.Normal) :
    " ".intercalate (wordsOf assigned.value) = assigned.value := by
  obtain ⟨list, areWords, valueEq⟩ := normal.exists_words
  rw [wordsOf, valueEq, words_unwords areWords, intercalate_of_list, ← valueEq,
    String.ofList_toList]

end Variable

namespace Rule

variable {rule : Rule}

theorem to_list_heading (rule : Rule) :
    rule.heading.toList =
      unwords (rule.targets.map String.toList) ++
        ':' :: (rule.prerequisites.map String.toList).flatMap (' ' :: ·) := by
  rw [heading, String.toList_append, String.toList_append, to_list_intercalate, String.toList_join,
    List.flatMap_map, List.flatMap_map]
  simp

theorem Normal.target_words (normal : rule.Normal) :
    ∀ word ∈ rule.targets.map String.toList, IsWord word :=
  List.forall_mem_map.2 fun target inside => (normal.targets target inside).1

theorem Normal.prerequisite_words (normal : rule.Normal) :
    ∀ word ∈ rule.prerequisites.map String.toList, IsWord word :=
  List.forall_mem_map.2 normal.prerequisites

/-- No target ends the targets early. -/
theorem Normal.unmarked (normal : rule.Normal) :
    ∀ c ∈ unwords (rule.targets.map String.toList), Statement.isRuleMark c = false := by
  intro c inside
  cases mem_unwords inside with
  | inl space => rw [space]; decide
  | inr inWord =>
      obtain ⟨word, wordInside, cInside⟩ := inWord
      obtain ⟨target, targetInside, rfl⟩ := List.mem_map.1 wordInside
      obtain ⟨-, noColon, noEquals⟩ := normal.targets target targetInside
      exact Statement.unmarked_of_not_mem noColon noEquals c cInside

theorem Normal.exists_first (normal : rule.Normal) :
    ∃ first, (unwords (rule.targets.map String.toList)).head? = some first ∧
      isBlank first = false ∧ first ≠ '#' := by
  cases targetsEq : rule.targets with
  | nil => exact absurd targetsEq normal.stated
  | cons target others =>
      have isWord := (normal.targets target (by simp [targetsEq])).1
      have noComment := normal.noComment target (by simp [targetsEq])
      obtain ⟨first, begins, ink⟩ := exists_first_of_is_word isWord
      refine ⟨first, ?_, ink, ?_⟩
      · rw [List.map_cons, head?_unwords isWord.1, begins]
      · intro same
        rw [begins, same] at noComment
        contradiction

theorem after_colon (rule : Rule) :
    (rule.prerequisites = [] ∧ (rule.prerequisites.map String.toList).flatMap (' ' :: ·) = []) ∨
      (rule.prerequisites.map String.toList).flatMap (' ' :: ·) =
        ' ' :: unwords (rule.prerequisites.map String.toList) := by
  by_cases empty : rule.prerequisites = []
  · exact .inl ⟨empty, by simp [empty]⟩
  · exact .inr (flat_map_space (by simpa using empty))

theorem Normal.of_line_heading (normal : rule.Normal) :
    Statement.ofLine rule.heading.toList = .rule rule.targets rule.prerequisites := by
  obtain ⟨first, begins, ink, noComment⟩ := normal.exists_first
  have noEquals :
      ((rule.prerequisites.map String.toList).flatMap (' ' :: ·)).head? ≠ some '=' := by
    rcases rule.after_colon with ⟨-, nothing⟩ | spaced
    · simp [nothing]
    · simp [spaced]
  have prerequisitesAgain : words ((rule.prerequisites.map String.toList).flatMap (' ' :: ·)) =
      rule.prerequisites.map String.toList := by
    rcases rule.after_colon with ⟨empty, nothing⟩ | spaced
    · rw [nothing, empty]; rfl
    · rw [spaced, words_cons_blank is_blank_space, words_unwords normal.prerequisite_words]
  rw [to_list_heading, Statement.of_line_rule begins ink noComment normal.unmarked noEquals,
    words_unwords normal.target_words, prerequisitesAgain, List.map_map, List.map_map]
  simp

end Rule

theorem NormalCommand.of_line {command : String} (normal : NormalCommand command) :
    Statement.ofLine ("\t" ++ command).toList = .command command := by
  have rowEq : ("\t" ++ command).toList = '\t' :: command.toList := by simp
  have nonempty : command.toList ≠ [] := by
    intro empty
    exact normal.nonempty (String.toList_eq_nil_iff.1 empty)
  rw [rowEq, Statement.of_line_tab, trim_of_ends normal.firstInk normal.lastInk,
    Statement.ofRecipeLine, if_neg nonempty, String.ofList_toList]

namespace Makefile

namespace Item

def Normal : Item → Prop
  | .assignment assigned => assigned.Normal
  | .rule stated => stated.Normal

def statements : Item → List Statement
  | .assignment assigned => [.assignment assigned]
  | .rule stated => .rule stated.targets stated.prerequisites :: stated.recipe.map .command

theorem Normal.map_of_line_rows {item : Item} (normal : item.Normal) :
    (item.rows.map String.toList).map Statement.ofLine = item.statements := by
  cases item with
  | assignment assigned =>
      have variableNormal : assigned.Normal := normal
      rw [rows, List.map_singleton, List.map_singleton, variableNormal.of_line_row, statements]
  | rule stated =>
      have ruleNormal : stated.Normal := normal
      have recipeEq : ((stated.recipe.map ("\t" ++ ·)).map String.toList).map Statement.ofLine =
          stated.recipe.map .command := by
        rw [List.map_map, List.map_map]
        apply List.map_congr_left
        intro command inside
        exact (ruleNormal.recipe command inside).of_line
      rw [rows, List.map_cons, List.map_cons, ruleNormal.of_line_heading, recipeEq, statements]

theorem Normal.rows_one_line {item : Item} (normal : item.Normal) :
    ∀ row ∈ item.rows, '\n' ∉ row.toList := by
  intro row inside
  cases item with
  | assignment assigned =>
      have variableNormal : assigned.Normal := normal
      obtain ⟨list, areWords, valueEq⟩ := variableNormal.exists_words
      have nameOneLine := variableNormal.no_char_in_name (c := '\n') (by decide)
      rw [rows, List.mem_singleton] at inside
      simp [inside, nameOneLine, valueEq, one_line_of_words areWords]
  | rule stated =>
      have ruleNormal : stated.Normal := normal
      rcases List.mem_cons.1 inside with heading | commandRow
      · have targets := one_line_of_words ruleNormal.target_words
        have prerequisites := one_line_of_words ruleNormal.prerequisite_words
        rw [heading, Rule.to_list_heading]
        rcases stated.after_colon with ⟨-, nothing⟩ | spaced
        · simp [nothing, targets]
        · simp only [spaced, List.mem_append, List.mem_cons]
          simp [targets, prerequisites]
      · obtain ⟨command, commandInside, rfl⟩ := List.mem_map.1 commandRow
        simp [(ruleNormal.recipe command commandInside).oneLine]

end Item

variable {items : List Item}

theorem rows_one_line (normal : ∀ item ∈ items, item.Normal) :
    ∀ row ∈ items.flatMap Item.rows, '\n' ∉ row.toList := by
  intro row inside
  obtain ⟨item, itemInside, rowInside⟩ := List.mem_flatMap.1 inside
  exact (normal item itemInside).rows_one_line row rowInside

theorem map_of_line_rows (normal : ∀ item ∈ items, item.Normal) :
    ((items.flatMap Item.rows).map String.toList).map Statement.ofLine =
      items.flatMap Item.statements := by
  induction items with
  | nil => rfl
  | cons item items induction =>
      have others := induction fun other inside => normal other (by simp [inside])
      rw [List.flatMap_cons, List.map_append, List.map_append, others,
        (normal item (by simp)).map_of_line_rows, List.flatMap_cons]

theorem of_statements_commands (commands : List String) :
    Fragment.ofStatements (commands.map .command) = { commands } := by
  induction commands with
  | nil => rfl
  | cons command commands induction =>
      rw [List.map_cons, Fragment.of_statements_cons, induction]
      rfl

theorem of_statements_item (item : Item) :
    Fragment.ofStatements item.statements = { makefile := ofItems [item] } := by
  cases item with
  | assignment assigned => rfl
  | rule stated =>
      rw [Item.statements, Fragment.of_statements_cons, of_statements_commands]
      rfl

theorem of_statements_items (items : List Item) :
    Fragment.ofStatements (items.flatMap Item.statements) = { makefile := ofItems items } := by
  induction items with
  | nil => rfl
  | cons item items induction =>
      rw [List.flatMap_cons, Fragment.of_statements_append, of_statements_item, induction,
        Fragment.join_of_no_commands _ rfl]
      have listed := of_items_append [item] items
      rw [List.singleton_append] at listed
      rw [listed]

end Makefile

end MakePlan
