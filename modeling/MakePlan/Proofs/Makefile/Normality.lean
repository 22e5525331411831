import MakePlan.Proofs.Makefile.Lines
import MakePlan.Proofs.Makefile.NormalForm

/-!
# Makefiles that are read are in normal form

However malformed a text is, each of its lines says something normal or nothing, and statements are
put together without spoiling that. Nothing more can be said in general: every Makefile in normal
form is read from some text.
-/

namespace MakePlan

set_option autoImplicit false

open Text

namespace Statement

def Normal : Statement → Prop
  | .assignment assigned => assigned.Normal
  | .rule targets prerequisites => (⟨targets, prerequisites, []⟩ : Rule).Normal
  | .command text => NormalCommand text
  | .nothing => True

theorem of_mem_words {text : List Char} {word : String}
    (inside : word ∈ (words text).map String.ofList) :
    IsWord word.toList ∧ ∀ c ∈ word.toList, c ∈ text := by
  obtain ⟨characters, charactersInside, rfl⟩ := List.mem_map.1 inside
  rw [String.toList_ofList]
  exact ⟨is_word_of_mem_words charactersInside, fun c => mem_of_mem_words charactersInside⟩

theorem assignment?_normal {line : List Char} {assigned : Variable}
    (recognised : assignment? line = some assigned) : assigned.Normal := by
  simp only [assignment?] at recognised
  split at recognised
  · contradiction
  · rename_i named
    obtain ⟨value, -, rfl⟩ := Option.map_eq_some_iff.1 recognised
    have nameChars : ∀ c ∈ line.takeWhile isNameChar, isNameChar c = true :=
      List.all_eq_true.1 List.all_takeWhile
    constructor
    · simpa using named
    · simpa using nameChars
    · exact ⟨(words value).map String.ofList, fun word inside => (of_mem_words inside).1,
        (intercalate_of_list _).symm⟩

/-- The targets of a line that begins with a visible character are words without marks. There is one
at least, as the line begins with it. -/
theorem rule?_normal {first : Char} {rest : List Char} {targets prerequisites : List String}
    (ink : isBlank first = false) (noComment : first ≠ '#')
    (recognised : rule? (first :: rest) = some (targets, prerequisites)) :
    (⟨targets, prerequisites, []⟩ : Rule).Normal := by
  simp only [rule?] at recognised
  split at recognised
  · rename_i afterColon found
    split at recognised
    · contradiction
    · rename_i accepted
      obtain ⟨rfl, rfl⟩ := Prod.mk.inj (Option.some.inj recognised)
      have unmarked : ∀ c ∈ (first :: rest).takeWhile (!isRuleMark ·), isRuleMark c = false := by
        intro c inside
        simpa using List.all_eq_true.1 List.all_takeWhile c inside
      have firstUnmarked : isRuleMark first = false := by
        cases marked : isRuleMark first with
        | false => rfl
        | true => simp [marked] at accepted
      obtain ⟨more, others, wordsEq⟩ :=
        exists_words_cons ink (rest.takeWhile (!isRuleMark ·))
      have targetsEq : words ((first :: rest).takeWhile (!isRuleMark ·)) =
          (first :: more) :: others := by
        rw [← wordsEq, List.takeWhile_cons_of_pos (by simp [firstUnmarked])]
      constructor
      · simp [targetsEq]
      · intro target inside
        obtain ⟨isWord, characters⟩ := of_mem_words inside
        refine ⟨isWord, ?_, ?_⟩
        · intro colon
          exact absurd (unmarked ':' (characters ':' colon)) (by decide)
        · intro equals
          exact absurd (unmarked '=' (characters '=' equals)) (by decide)
      · exact fun prerequisite inside => (of_mem_words inside).1
      · simp [targetsEq, noComment]
      · simp
  · contradiction

theorem of_plain_line_normal (line : List Char) : (ofPlainLine (trim line)).Normal := by
  rw [ofPlainLine]
  split
  · exact trivial
  · rename_i said
    rw [not_or] at said
    obtain ⟨first, rest, lineEq⟩ := List.exists_cons_of_ne_nil said.1
    have ink : isBlank first = false := by
      have firstInk := first_ink_trim line
      rw [lineEq] at firstInk
      exact firstInk
    have noComment : first ≠ '#' := by
      intro comment
      exact said.2 (by rw [lineEq, comment]; rfl)
    rw [lineEq]
    split
    · rename_i assigned recognised
      exact assignment?_normal recognised
    · split
      · rename_i targets prerequisites recognised
        exact rule?_normal ink noComment recognised
      · exact trivial

theorem of_recipe_line_normal {text : List Char} (oneLine : '\n' ∉ text) :
    (ofRecipeLine (trim text)).Normal := by
  rw [ofRecipeLine]
  split
  · exact trivial
  · rename_i nonempty
    constructor
    · simpa using nonempty
    · simpa using first_ink_trim text
    · simpa using last_ink_trim text
    · rw [String.toList_ofList]
      exact fun feed => oneLine (mem_of_mem_trim feed)

theorem of_line_normal {line : List Char} (oneLine : '\n' ∉ line) : (ofLine line).Normal := by
  cases line with
  | nil => exact trivial
  | cons first rest =>
      by_cases tab : first = '\t'
      · rw [tab, of_line_tab]
        exact of_recipe_line_normal fun feed => oneLine (List.mem_cons_of_mem first feed)
      · rw [of_line_of_not_tab (by simp [tab])]
        exact of_plain_line_normal _

end Statement

structure Fragment.Normal (fragment : Fragment) : Prop where
  commands : ∀ command ∈ fragment.commands, NormalCommand command
  makefile : fragment.makefile.Normal

theorem Fragment.Normal.prepend {fragment : Fragment} (normal : fragment.Normal)
    {statement : Statement} (said : statement.Normal) : (fragment.prepend statement).Normal := by
  cases statement with
  | assignment assigned =>
      exact ⟨normal.commands,
        ⟨List.forall_mem_cons.2 ⟨said, normal.makefile.assignments⟩, normal.makefile.rules⟩⟩
  | rule targets prerequisites =>
      -- The new rule takes the commands that wait, and none is left.
      have ruleNormal : Rule.Normal ⟨targets, prerequisites, fragment.commands⟩ :=
        { said with recipe := normal.commands }
      exact ⟨by simp [Fragment.prepend],
        ⟨normal.makefile.assignments, List.forall_mem_cons.2 ⟨ruleNormal, normal.makefile.rules⟩⟩⟩
  | command text => exact ⟨List.forall_mem_cons.2 ⟨said, normal.commands⟩, normal.makefile⟩
  | nothing => exact normal

theorem Fragment.of_statements_normal {statements : List Statement}
    (normal : ∀ statement ∈ statements, statement.Normal) : (ofStatements statements).Normal := by
  induction statements with
  | nil => exact ⟨by simp [ofStatements], ⟨by simp [ofStatements], by simp [ofStatements]⟩⟩
  | cons statement statements induction =>
      have others := induction fun other inside => normal other (by simp [inside])
      exact others.prepend (normal statement (by simp))

namespace Makefile

theorem statements_normal (text : List Char) :
    ∀ statement ∈ statements text, statement.Normal := by
  intro statement inside
  obtain ⟨line, lineInside, rfl⟩ := List.mem_map.1 inside
  apply Statement.of_line_normal
  intro feed
  rcases mem_of_mem_logical_lines lineInside feed with space | ⟨row, rowInside, inRow⟩
  · exact absurd space (by decide)
  · exact lines_one_line text row rowInside inRow

/-- The words of a variable, a single space apart, are its value. -/
theorem Normal.value_of?_eq_words {makefile : Makefile} (normal : makefile.Normal)
    {assigned : Variable} (inside : assigned ∈ makefile.assignments) :
    makefile.valueOf? assigned.name =
      some (" ".intercalate (makefile.variableWords assigned.name)) := by
  cases found : makefile.assignments.reverse.find? (·.name = assigned.name) with
  | none =>
      have unnamed := List.find?_eq_none.1 found assigned (List.mem_reverse.2 inside)
      simp at unnamed
  | some last =>
      have lastInside := List.mem_reverse.1 (List.mem_of_find?_eq_some found)
      have valueEq : makefile.valueOf? assigned.name = some last.value := by
        rw [valueOf?, found, Option.map_some]
      rw [variableWords, valueEq, Option.map_some, Option.getD_some,
        (normal.assignments last lastInside).intercalate_words_of]

theorem normal_read (text : String) : (read text).Normal :=
  (Fragment.of_statements_normal (statements_normal text.toList)).makefile

/-- Every Makefile that is read is in normal form, and the words of each variable that it assigns
give back the value. -/
theorem read_normal_form (text : String) :
    (read text).Normal ∧ ∀ assigned ∈ (read text).assignments,
      (read text).valueOf? assigned.name =
        some (" ".intercalate ((read text).variableWords assigned.name)) :=
  ⟨normal_read text, fun _ inside => (normal_read text).value_of?_eq_words inside⟩

example : read "= a\n\t\\\n\n: b\n\td\n#e:\nc=\u2003= \\\n\t=\nf \\\n#:f\n\t\n\t g\t\n" =
    { assignments := [⟨"c", "= ="⟩], rules := [⟨["f", "#"], ["f"], ["g"]⟩] } := by
  decide +kernel

/-- The rows with a fold at the end of each, so that none is continued by the next one, whatever
character it ends in. -/
def foldedApart (rows : List (List Char)) : List (List Char) :=
  rows.flatMap fun row => [row ++ ['\\'], []]

theorem of_rows_folded_apart (rows : List (List Char)) :
    Statement.ofRows (foldedApart rows) = rows.map Statement.ofLine := by
  induction rows with
  | nil => rfl
  | cons row rows induction =>
      have linesEq : logicalLines (foldedApart (row :: rows)) =
          (row ++ [' ']) :: logicalLines (foldedApart rows) :=
        logical_lines_cons_backslash (logical_lines_cons_closed rfl (foldedApart rows))
      have spaceBlank : AllBlank [' '] := by simp [AllBlank]
      have sameLine : Statement.ofLine (row ++ [' ']) = Statement.ofLine row := by
        rw [← Statement.of_line_trim_end, trim_end_append_all_blank row spaceBlank,
          Statement.of_line_trim_end]
      rw [Statement.ofRows, linesEq, List.map_cons, sameLine, List.map_cons, ← induction,
        Statement.ofRows]

def items (makefile : Makefile) : List Item :=
  makefile.assignments.map .assignment ++ makefile.rules.map .rule

theorem of_items_items (makefile : Makefile) : ofItems makefile.items = makefile := by
  have noRule : makefile.assignments.filterMap (Item.rule? ∘ Item.assignment) = [] :=
    List.filterMap_eq_nil_iff.2 fun _ _ => rfl
  have noAssignment : makefile.rules.filterMap (Item.assignment? ∘ Item.rule) = [] :=
    List.filterMap_eq_nil_iff.2 fun _ _ => rfl
  have assignmentsAgain :
      makefile.assignments.filterMap (Item.assignment? ∘ Item.assignment) = makefile.assignments :=
    List.filterMap_some
  have rulesAgain : makefile.rules.filterMap (Item.rule? ∘ Item.rule) = makefile.rules :=
    List.filterMap_some
  simp only [ofItems, items, List.filterMap_append, List.filterMap_map, noRule, noAssignment,
    assignmentsAgain, rulesAgain, List.append_nil, List.nil_append]

theorem Normal.items {makefile : Makefile} (normal : makefile.Normal) :
    ∀ item ∈ makefile.items, item.Normal := by
  intro item inside
  rcases List.mem_append.1 inside with inAssignments | inRules
  · obtain ⟨assigned, assignedInside, rfl⟩ := List.mem_map.1 inAssignments
    exact normal.assignments assigned assignedInside
  · obtain ⟨stated, statedInside, rfl⟩ := List.mem_map.1 inRules
    exact normal.rules stated statedInside

/-- The normal form leaves nothing out: the Makefiles in normal form are those that can be read. -/
theorem exists_read_iff_normal {makefile : Makefile} :
    (∃ text, read text = makefile) ↔ makefile.Normal := by
  constructor
  · rintro ⟨text, rfl⟩
    exact normal_read text
  · intro normal
    let rows := (makefile.items.flatMap Item.rows).map String.toList
    have oneLine : ∀ row ∈ foldedApart rows, '\n' ∉ row := by
      intro row inside
      obtain ⟨plain, plainInside, rowInside⟩ := List.mem_flatMap.1 inside
      obtain ⟨text, textInside, rfl⟩ := List.mem_map.1 plainInside
      have plainOneLine := rows_one_line normal.items text textInside
      rcases List.mem_cons.1 rowInside with folded | empty
      · simp [folded, plainOneLine]
      · simp [List.mem_singleton.1 empty]
    refine ⟨String.ofList (unlines (foldedApart rows)), ?_⟩
    have said :
        statements (unlines (foldedApart rows)) = makefile.items.flatMap Item.statements := by
      rw [statements, lines_unlines oneLine, ← Statement.ofRows, of_rows_folded_apart,
        map_of_line_rows normal.items]
    rw [read, String.toList_ofList, said, of_statements_items, of_items_items]

end Makefile

end MakePlan
