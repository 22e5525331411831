import MakePlan.Proofs.Makefile.Runs
import MakePlan.Proofs.Makefile.Statement

/-!
# Closed and continued lines

A line is continued when its last visible character is a backslash. A closed line is read by itself;
the words of a continued line go in front of those of the line that follows.
-/

namespace MakePlan

set_option autoImplicit false

open Text

def Statement.ofRows (rows : List (List Char)) : List Statement :=
  (logicalLines rows).map Statement.ofLine

theorem is_continued_eq_false_iff {row : List Char} :
    isContinued row = false ↔ (row.filter (!isBlank ·)).getLast? ≠ some '\\' := by
  rw [isContinued, get_last?_trim_end, decide_eq_false_iff_not]

theorem is_continued_of_no_backslash {row : List Char} (plain : '\\' ∉ row) :
    isContinued row = false := by
  rw [is_continued_eq_false_iff]
  intro last
  have inside := List.mem_of_getLast? last
  exact plain (List.mem_filter.1 inside).1

theorem is_continued_append {front rest : List Char} (frontClosed : isContinued front = false)
    (restClosed : isContinued rest = false) : isContinued (front ++ rest) = false := by
  rw [is_continued_eq_false_iff] at frontClosed restClosed ⊢
  rw [List.filter_append, List.getLast?_append]
  cases last : (rest.filter (!isBlank ·)).getLast? with
  | none => exact frontClosed
  | some c =>
      rw [last] at restClosed
      exact restClosed

theorem is_continued_of_last {row : List Char}
    (ink : ∀ c, row.getLast? = some c → isBlank c = false ∧ c ≠ '\\') :
    isContinued row = false := by
  rw [isContinued, trim_end_of_last fun c last => (ink c last).1, decide_eq_false_iff_not]
  intro last
  exact (ink '\\' last).2 rfl

theorem trim_end_backslash (front : List Char) : trimEnd (front ++ ['\\']) = front ++ ['\\'] :=
  trim_end_append_ink is_blank_backslash front []

theorem is_continued_backslash (front : List Char) : isContinued (front ++ ['\\']) = true := by
  rw [isContinued, trim_end_backslash]
  simp

theorem body_backslash (front : List Char) : body (front ++ ['\\']) = front := by
  rw [body, if_pos (is_continued_backslash front), trim_end_backslash]
  simp

theorem share_backslash (front : List Char) : share (front ++ ['\\']) = front ++ [' '] := by
  rw [share_of_continued (is_continued_backslash front), body_backslash]

theorem body_prefix_line (row : List Char) : body row <+: row := by
  obtain ⟨gap, -, joined⟩ := exists_gap_trim_end row
  have kept : trimEnd row <+: row := ⟨gap, joined.symm⟩
  rw [body]
  split
  · exact (List.dropLast_prefix _).trans kept
  · exact kept

theorem body_of_closed {row : List Char} (closed : isContinued row = false) :
    body row = trimEnd row := by
  simp [body, closed]

@[simp] theorem is_continued_trim_end (row : List Char) :
    isContinued (trimEnd row) = isContinued row := by
  rw [isContinued, trim_end_trim_end, isContinued]

@[simp] theorem body_trim_end (row : List Char) : body (trimEnd row) = body row := by
  rw [body, is_continued_trim_end, trim_end_trim_end, body]

/-- Lines are joined by what stands on them up to their last visible character. -/
theorem logical_lines_map_trim_end (rows : List (List Char)) :
    logicalLines (rows.map trimEnd) = logicalLines rows := by
  induction rows with
  | nil => rfl
  | cons row rest induction =>
      have sameFront : ∀ lines, prepend (trimEnd row) lines = prepend row lines := by
        intro lines
        cases lines <;> simp [prepend]
      rw [List.map_cons, logicalLines, is_continued_trim_end, body_trim_end, induction, sameFront,
        logicalLines]

theorem logical_lines_cons_closed {row : List Char} (closed : isContinued row = false)
    (rest : List (List Char)) : logicalLines (row :: rest) = trimEnd row :: logicalLines rest := by
  simp [logicalLines, closed, body_of_closed closed]

theorem of_rows_cons_closed {row : List Char} (closed : isContinued row = false)
    (rest : List (List Char)) :
    Statement.ofRows (row :: rest) = Statement.ofLine row :: Statement.ofRows rest := by
  rw [Statement.ofRows, logical_lines_cons_closed closed, List.map_cons, Statement.of_line_trim_end]
  rfl

theorem mem_of_mem_logical_lines {rows : List (List Char)} {line : List Char}
    (inside : line ∈ logicalLines rows) {c : Char} (cInside : c ∈ line) :
    c = ' ' ∨ ∃ row ∈ rows, c ∈ row := by
  rw [logical_lines_eq_map_runs] at inside
  obtain ⟨run, runInside, rfl⟩ := List.mem_map.1 inside
  obtain ⟨row, rowInside, cInShare⟩ := List.mem_flatMap.1 cInside
  rcases List.mem_append.1 cInShare with inBody | inSpace
  · have rowInRows : row ∈ rows := by
      rw [← flatten_runs rows]
      exact List.mem_flatten.2 ⟨run, runInside, rowInside⟩
    exact .inr ⟨row, rowInRows, (body_prefix_line row).subset inBody⟩
  · split at inSpace
    · exact .inl (List.mem_singleton.1 inSpace)
    · simp at inSpace

theorem of_rows_of_closed {rows : List (List Char)}
    (closed : ∀ row ∈ rows, isContinued row = false) :
    Statement.ofRows rows = rows.map Statement.ofLine := by
  induction rows with
  | nil => rfl
  | cons row rows induction =>
      rw [of_rows_cons_closed (closed row (by simp)),
        induction fun other inside => closed other (by simp [inside]), List.map_cons]

theorem logical_lines_cons_backslash {front first : List Char} {rows others : List (List Char)}
    (folded : logicalLines rows = first :: others) :
    logicalLines ((front ++ ['\\']) :: rows) = (front ++ ' ' :: first) :: others := by
  rw [logicalLines, if_pos (is_continued_backslash front), folded, prepend, body_backslash]

/-- Rows whose last one is closed keep their logical lines, whatever is put after them. -/
theorem logical_lines_append {front : List (List Char)}
    (closed : ∀ row, front.getLast? = some row → isContinued row = false)
    (rest : List (List Char)) :
    logicalLines (front ++ rest) = logicalLines front ++ logicalLines rest := by
  simp only [logical_lines_eq_map_runs, runs_append closed, List.map_append]

end MakePlan
