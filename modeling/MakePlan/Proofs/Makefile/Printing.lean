import MakePlan.Proofs.Makefile.Lines
import MakePlan.Proofs.Makefile.NormalForm

/-!
# A printed Makefile is read back

Items in the plain layout are read back as they are, in any order and with any characters that their
places allow: no row is continued by the next one, so each says its own statement.
-/

namespace MakePlan

set_option autoImplicit false

open Text

/-- An assignment that the plain layout shows faithfully: its value is a list of words, the last of
which does not continue the line. -/
structure Variable.Canonical (assigned : Variable) : Prop where
  named : assigned.name ≠ ""
  nameChars : ∀ c ∈ assigned.name.toList, Statement.isNameChar c = true
  words : ∃ list : List String,
    (∀ word ∈ list, IsWord word.toList) ∧ assigned.value = " ".intercalate list
  closed : assigned.value.toList.getLast? ≠ some '\\'

structure IsCommand (command : String) : Prop where
  nonempty : command ≠ ""
  firstInk : command.toList.head?.any isBlank = false
  lastInk : command.toList.getLast?.any isBlank = false
  oneLine : '\n' ∉ command.toList
  closed : command.toList.getLast? ≠ some '\\'

instance (command : String) : Decidable (IsCommand command) :=
  decidable_of_iff
    (command ≠ "" ∧ command.toList.head?.any isBlank = false ∧
      command.toList.getLast?.any isBlank = false ∧ '\n' ∉ command.toList ∧
      command.toList.getLast? ≠ some '\\')
    ⟨fun ⟨nonempty, firstInk, lastInk, oneLine, closed⟩ =>
        ⟨nonempty, firstInk, lastInk, oneLine, closed⟩,
      fun isCommand =>
        ⟨isCommand.nonempty, isCommand.firstInk, isCommand.lastInk, isCommand.oneLine,
          isCommand.closed⟩⟩

/-- A rule that the plain layout shows faithfully. Its targets are free of the marks that end them,
and its first row is neither a comment nor continued. -/
structure Rule.Canonical (rule : Rule) : Prop where
  stated : rule.targets ≠ []
  targets : ∀ target ∈ rule.targets,
    IsWord target.toList ∧ ':' ∉ target.toList ∧ '=' ∉ target.toList
  prerequisites : ∀ prerequisite ∈ rule.prerequisites, IsWord prerequisite.toList
  noComment : ∀ first ∈ rule.targets.head?, first.toList.head? ≠ some '#'
  closed : ∀ last ∈ rule.prerequisites.getLast?, last.toList.getLast? ≠ some '\\'
  recipe : ∀ command ∈ rule.recipe, IsCommand command

theorem is_continued_of_words {list : List (List Char)} (areWords : ∀ word ∈ list, IsWord word)
    (closed : ∀ last, list.getLast? = some last → last.getLast? ≠ some '\\') :
    isContinued (unwords list) = false := by
  cases List.eq_nil_or_concat list with
  | inl empty => rw [empty]; rfl
  | inr ends =>
      obtain ⟨front, last, listEq⟩ := ends
      rw [List.concat_eq_append] at listEq
      have lastWord := areWords last (by simp [listEq])
      have lastClosed := closed last (by simp [listEq])
      apply is_continued_of_last
      intro c cLast
      rw [listEq, get_last?_unwords front lastWord.1] at cLast
      refine ⟨lastWord.2 c (List.mem_of_getLast? cLast), ?_⟩
      intro backslash
      rw [backslash] at cLast
      exact lastClosed cLast

namespace Variable

variable {assigned : Variable}

theorem Canonical.normal (canonical : assigned.Canonical) : assigned.Normal where
  named := canonical.named
  nameChars := canonical.nameChars
  words := canonical.words

theorem Canonical.is_continued_value (canonical : assigned.Canonical) :
    isContinued assigned.value.toList = false := by
  obtain ⟨list, areWords, valueEq⟩ := canonical.normal.exists_words
  have closed := canonical.closed
  rw [valueEq] at closed ⊢
  apply is_continued_of_words areWords
  intro last listLast
  obtain ⟨front, rfl⟩ := List.getLast?_eq_some_iff.1 listLast
  rwa [get_last?_unwords front (areWords last (by simp)).1] at closed

theorem Canonical.is_continued_row (canonical : assigned.Canonical) :
    isContinued (assigned.name ++ " = " ++ assigned.value).toList = false := by
  have labelClosed : isContinued (assigned.name ++ " = ").toList = false := by
    apply is_continued_of_no_backslash
    rw [String.toList_append, List.mem_append]
    exact not_or.2 ⟨canonical.normal.no_char_in_name (by decide), by decide⟩
  rw [String.toList_append]
  exact is_continued_append labelClosed canonical.is_continued_value

end Variable

theorem IsCommand.normal {command : String} (isCommand : IsCommand command) :
    NormalCommand command where
  nonempty := isCommand.nonempty
  firstInk := isCommand.firstInk
  lastInk := isCommand.lastInk
  oneLine := isCommand.oneLine

theorem IsCommand.is_continued {command : String} (isCommand : IsCommand command) :
    MakePlan.isContinued ("\t" ++ command).toList = false := by
  have commandClosed : MakePlan.isContinued command.toList = false := by
    apply is_continued_of_last
    intro c last
    have ink := isCommand.lastInk
    rw [last] at ink
    refine ⟨ink, ?_⟩
    intro backslash
    rw [backslash] at last
    exact isCommand.closed last
  rw [String.toList_append]
  exact is_continued_append rfl commandClosed

namespace Rule

variable {rule : Rule}

theorem Canonical.normal (canonical : rule.Canonical) : rule.Normal where
  stated := canonical.stated
  targets := canonical.targets
  prerequisites := canonical.prerequisites
  noComment := canonical.noComment
  recipe := fun command inside => (canonical.recipe command inside).normal

theorem Canonical.is_continued_heading (canonical : rule.Canonical) :
    isContinued rule.heading.toList = false := by
  have goalsClosed : isContinued (unwords (rule.targets.map String.toList) ++ [':']) = false := by
    apply is_continued_of_last
    intro c last
    rw [List.getLast?_concat, Option.some.injEq] at last
    rw [← last]
    decide
  have listClosed : isContinued (unwords (rule.prerequisites.map String.toList)) = false := by
    apply is_continued_of_words canonical.normal.prerequisite_words
    intro word last
    rw [List.getLast?_map] at last
    obtain ⟨prerequisite, prerequisiteLast, rfl⟩ := Option.map_eq_some_iff.1 last
    exact canonical.closed prerequisite prerequisiteLast
  have spaceClosed : isContinued [' '] = false := rfl
  rw [to_list_heading, List.append_cons]
  apply is_continued_append goalsClosed
  rcases rule.after_colon with ⟨-, nothing⟩ | spaced
  · rw [nothing]; rfl
  · rw [spaced]
    exact is_continued_append spaceClosed listClosed

end Rule

namespace Makefile

namespace Item

def Canonical : Item → Prop
  | .assignment assigned => assigned.Canonical
  | .rule stated => stated.Canonical

theorem Canonical.normal {item : Item} (canonical : item.Canonical) : item.Normal := by
  cases item with
  | assignment assigned => exact Variable.Canonical.normal canonical
  | rule stated => exact Rule.Canonical.normal canonical

theorem Canonical.rows_closed {item : Item} (canonical : item.Canonical) :
    ∀ row ∈ item.rows, isContinued row.toList = false := by
  intro row inside
  cases item with
  | assignment assigned =>
      have variableCanonical : assigned.Canonical := canonical
      rw [rows, List.mem_singleton] at inside
      rw [inside, variableCanonical.is_continued_row]
  | rule stated =>
      have ruleCanonical : stated.Canonical := canonical
      rcases List.mem_cons.1 inside with heading | commandRow
      · rw [heading, ruleCanonical.is_continued_heading]
      · obtain ⟨command, commandInside, rfl⟩ := List.mem_map.1 commandRow
        exact (ruleCanonical.recipe command commandInside).is_continued

end Item

theorem statements_print {items : List Item} (canonical : ∀ item ∈ items, item.Canonical) :
    statements (print items).toList = items.flatMap Item.statements := by
  have normal : ∀ item ∈ items, item.Normal := fun item inside => (canonical item inside).normal
  have closed : ∀ row ∈ (items.flatMap Item.rows).map String.toList, isContinued row = false := by
    intro characters inside
    obtain ⟨row, rowInside, rfl⟩ := List.mem_map.1 inside
    obtain ⟨item, itemInside, rowInside⟩ := List.mem_flatMap.1 rowInside
    exact (canonical item itemInside).rows_closed row rowInside
  change Statement.ofRows (lines (print items).toList) = _
  rw [print, lines_block (rows_one_line normal), of_rows_of_closed closed, map_of_line_rows normal]

/-- Reading the plain layout of canonical items gives their variables and their rules, each in the
order in which they were listed. -/
theorem read_print {items : List Item} (canonical : ∀ item ∈ items, item.Canonical) :
    read (print items) = ofItems items := by
  rw [read, statements_print canonical, of_statements_items]

/-- Marks of assignments, rules, comments and continued lines in places where they mean nothing. -/
def marked : List Item :=
  [ .rule ⟨["+?", "#b\\"], ["=:", "\\x", "a:=b"], ["#@= :", "t: u \\ v"]⟩,
    .assignment ⟨"-.9_Z", "= := # \\y $(?)"⟩,
    .rule ⟨["clean"], [], []⟩,
    .assignment ⟨"CC", ""⟩,
    .rule ⟨["clean"], ["#"], ["x"]⟩ ]

theorem canonical_marked : ∀ item ∈ marked, item.Canonical := by
  simp only [marked, List.forall_mem_cons, Item.Canonical]
  refine ⟨?_, ?_, ?_, ?_, ?_, by simp⟩
  · constructor <;> decide
  · exact ⟨by decide, List.all_eq_true.1 (by decide),
      ⟨["=", ":=", "#", "\\y", "$(?)"], by decide, rfl⟩, by decide⟩
  · constructor <;> decide
  · exact ⟨by decide, List.all_eq_true.1 (by decide), ⟨[], by decide, rfl⟩, by decide⟩
  · constructor <;> decide

theorem read_print_marked :
    (∀ item ∈ marked, item.Canonical) ∧
      print marked =
        "+? #b\\: =: \\x a:=b\n\t#@= :\n\tt: u \\ v\n-.9_Z = = := # \\y $(?)\nclean:\nCC = \n" ++
          "clean: #\n\tx\n" ∧
      read (print marked) = ofItems marked :=
  ⟨canonical_marked, by decide +kernel, read_print canonical_marked⟩

end Makefile

end MakePlan
