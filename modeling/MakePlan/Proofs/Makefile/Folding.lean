import MakePlan.Proofs.Makefile.Lines
import MakePlan.Proofs.Makefile.Spacing

/-!
# Folding a line

A line may be folded at any blank inside it: a backslash and a line feed in its place leave the
Makefile as it is. Recipe lines are the exception, as their blanks are part of the command.
-/

namespace MakePlan

set_option autoImplicit false

open Text

theorem head?_of_share {row : List Char} (tab : (share row).head? = some '\t') :
    row.head? = some '\t' := by
  obtain ⟨rest, joined⟩ := body_prefix_line row
  cases bodyEq : body row with
  | nil =>
      rw [share, bodyEq] at tab
      split at tab <;> simp at tab
  | cons first more =>
      rw [share, bodyEq] at tab
      rw [← joined, bodyEq]
      simpa using tab

theorem is_continued_append_of_visible {rest : List Char} (visible : ¬ AllBlank rest)
    (front : List Char) : isContinued (front ++ rest) = isContinued rest := by
  have kept : trimEnd rest ≠ [] := fun noneLeft => visible (trim_end_eq_nil_iff.1 noneLeft)
  rw [isContinued, trim_end_append kept, List.getLast?_append, Option.or_of_isSome (by simp [kept]),
    isContinued]

theorem share_append_of_visible {rest : List Char} (visible : ¬ AllBlank rest)
    (front : List Char) : share (front ++ rest) = front ++ share rest := by
  have kept : trimEnd rest ≠ [] := fun noneLeft => visible (trim_end_eq_nil_iff.1 noneLeft)
  rw [share, share, body, body, is_continued_append_of_visible visible, trim_end_append kept]
  split
  · rw [List.dropLast_append_of_ne_nil kept, List.append_assoc]
  · rw [List.append_assoc]

theorem runs_singleton (row : List Char) : runs [row] = [[row]] := by
  simp [runs]

/-- The last of the rows is in a run that begins with a tab. -/
def EndsInRecipe (rows : List (List Char)) : Prop :=
  ((runs rows).getLast?.bind List.head?).bind List.head? = some '\t'

variable {settled opened : List (List Char)} {start rest : List Char} {c : Char}

theorem runs_of_opened (closed : ∀ row, settled.getLast? = some row → isContinued row = false)
    (continued : ∀ row ∈ opened, isContinued row = true) {first : List (List Char)}
    {later : List (List Char)} {others : List (List (List Char))}
    (found : runs later = first :: others) :
    runs (settled ++ opened ++ later) = runs settled ++ (opened ++ first) :: others := by
  rw [List.append_assoc, runs_append closed, runs_append_continued continued found]

theorem head?_of_plain (closed : ∀ row, settled.getLast? = some row → isContinued row = false)
    (continued : ∀ row ∈ opened, isContinued row = true)
    (plain : ¬ EndsInRecipe (settled ++ opened ++ [start ++ [c]])) :
    (opened.flatMap share ++ start ++ [c]).head? ≠ some '\t' := by
  intro tab
  apply plain
  rw [EndsInRecipe, runs_of_opened closed continued (runs_singleton _)]
  cases opened with
  | nil => simpa using tab
  | cons first opened =>
      have firstShare : share first ≠ [] := by
        simp [share_of_continued (continued first (by simp))]
      have firstTab : (share first).head? = some '\t' := by
        rw [← tab]
        cases shareEq : share first with
        | nil => contradiction
        | cons head more => simp [shareEq]
      simpa using head?_of_share firstTab

/-- Both texts have one logical line with the same parts, and a gap between them. -/
theorem of_rows_fold (blank : isBlank c = true) (visible : ¬ AllBlank rest)
    {earlier : List (List Char)} (plain : ¬ EndsInRecipe (earlier ++ [start ++ [c]]))
    (later : List (List Char)) :
    Statement.ofRows (earlier ++ (start ++ [' '] ++ ['\\']) :: rest :: later) =
      Statement.ofRows (earlier ++ (start ++ [c] ++ rest) :: later) := by
  obtain ⟨settled, opened, rfl, closed, continued⟩ := exists_settled_opened earlier
  obtain ⟨more, others, around⟩ := exists_runs_cons rest later
  have rowRuns :
      runs ((start ++ [c] ++ rest) :: later) = ((start ++ [c] ++ rest) :: more) :: others :=
    around _ (is_continued_append_of_visible visible _)
  have foldRuns : runs ((start ++ [' '] ++ ['\\']) :: rest :: later) =
      ((start ++ [' '] ++ ['\\']) :: rest :: more) :: others := by
    rw [runs, if_pos (is_continued_backslash _), around rest rfl]
  let front := opened.flatMap share ++ start
  let back := share rest ++ more.flatMap share
  have rowLine :
      (opened ++ (start ++ [c] ++ rest) :: more).flatMap share = front ++ ([c] ++ back) := by
    rw [List.flatMap_append, List.flatMap_cons, share_append_of_visible visible]
    simp [front, back]
  have foldLine : (opened ++ (start ++ [' '] ++ ['\\']) :: rest :: more).flatMap share =
      front ++ ([' ', ' '] ++ back) := by
    rw [List.flatMap_append, List.flatMap_cons, List.flatMap_cons, share_backslash]
    simp [front, back]
  have blankGap : IsGap [c] := ⟨by simp, by simp [AllBlank, blank]⟩
  have spaceGap : IsGap [' ', ' '] := ⟨by simp, by simp [AllBlank]⟩
  have noTab : (front ++ [c]).head? ≠ some '\t' := head?_of_plain closed continued plain
  have stillNoTab : (front ++ [' ', ' ']).head? ≠ some '\t' := by
    cases frontEq : front with
    | nil => simp
    | cons head tail => simpa [frontEq] using noTab
  have sameLine := Statement.of_line_gap spaceGap blankGap back stillNoTab noTab
  rw [Statement.ofRows, Statement.ofRows, logical_lines_eq_map_runs, logical_lines_eq_map_runs,
    runs_of_opened closed continued rowRuns, runs_of_opened closed continued foldRuns]
  simp only [List.map_append, List.map_cons, rowLine, foldLine, sameLine]

/-- Where a text may be folded: at a blank inside a line, with something to be seen on the rest of
that line, unless the logical line is a recipe. Up to the blank, that line is the last one of the
text. -/
structure Foldable (before : String) (c : Char) (after : String) : Prop where
  blank : isBlank c = true
  withinLine : c ≠ '\n'
  followed : ∃ ink ∈ after.toList.takeWhile (· ≠ '\n'), isBlank ink = false
  plain : ¬ EndsInRecipe (lines (before.push c).toList)

/-- Folding a line changes nothing: neither the variables and rules that are read nor the words and
commands in them. -/
theorem Makefile.read_fold {before after : String} {c : Char} (foldable : Foldable before c after) :
    read (before ++ " \\\n" ++ after) = read (before.push c ++ after) := by
  obtain ⟨rows, start, beforeEq, oneLine, startOneLine⟩ := exists_unlines_append before.toList
  obtain ⟨ink, inkInside, inkSeen⟩ := foldable.followed
  let rest := after.toList.takeWhile (· ≠ '\n')
  let later := lines (after.toList.dropWhile (· ≠ '\n')).tail
  have afterNonempty : after.toList ≠ [] := by
    intro empty
    simp [empty] at inkInside
  have visible : ¬ AllBlank rest := by
    intro blank
    rw [blank ink inkInside] at inkSeen
    contradiction
  have rowOneLine : '\n' ∉ start ++ [c] := by
    simp [startOneLine, Ne.symm foldable.withinLine]
  have foldOneLine : '\n' ∉ start ++ [' '] ++ ['\\'] := by simp [startOneLine]
  have rowLines :
      lines (before.push c ++ after).toList = rows ++ (start ++ [c] ++ rest) :: later := by
    have textEq :
        (before.push c ++ after).toList = unlines rows ++ (start ++ [c] ++ after.toList) := by
      simp [beforeEq]
    rw [textEq, lines_unlines_append oneLine, lines_row_append rowOneLine (by simp)]
  have foldLines : lines (before ++ " \\\n" ++ after).toList =
      rows ++ (start ++ [' '] ++ ['\\']) :: rest :: later := by
    have textEq : (before ++ " \\\n" ++ after).toList =
        unlines rows ++ (start ++ [' '] ++ ['\\'] ++ '\n' :: after.toList) := by
      simp [beforeEq]
    rw [textEq, lines_unlines_append oneLine, lines_append_newline foldOneLine,
      lines_eq_cons afterNonempty]
  have plain : ¬ EndsInRecipe (rows ++ [start ++ [c]]) := by
    have cutEq : (before.push c).toList = unlines rows ++ (start ++ [c] ++ []) := by
      simp [beforeEq]
    have cutLines : lines (before.push c).toList = rows ++ [start ++ [c]] := by
      rw [cutEq, lines_unlines_append oneLine, lines_row_append rowOneLine (by simp)]
      simp
    rw [← cutLines]
    exact foldable.plain
  have sameStatements : statements (before ++ " \\\n" ++ after).toList =
      statements (before.push c ++ after).toList := by
    rw [statements, statements, rowLines, foldLines]
    exact of_rows_fold foldable.blank visible plain later
  rw [read, read, sameStatements]

/-- The blank stands in a line that is folded before and after it, with a tab behind it. -/
theorem Makefile.read_fold_between_folds :
    Foldable "a\\\nb:" '\u2003' "\tc=\t\\\n#d\n\te f\n" ∧
    read ("a\\\nb:" ++ " \\\n" ++ "\tc=\t\\\n#d\n\te f\n") =
      { rules := [⟨["a", "b"], ["c=", "#d"], ["e f"]⟩] } := by
  have foldable : Foldable "a\\\nb:" '\u2003' "\tc=\t\\\n#d\n\te f\n" := by
    constructor
    · decide
    · decide
    · exact ⟨'c', by decide, by decide⟩
    · rw [EndsInRecipe]
      decide +kernel
  refine ⟨foldable, ?_⟩
  rw [read_fold foldable]
  decide +kernel

end MakePlan
