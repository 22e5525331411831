import MakePlan.Proofs.Makefile.Fragment
import MakePlan.Proofs.Makefile.Lines
import MakePlan.Proofs.Text.LineEnds

/-!
# What stands at the ends of lines

A Makefile is read by its bare lines, so blanks at the ends of lines change nothing: they make no
command of an empty line, they keep no backslash from continuing its line, and a line that holds
nothing else says nothing.
-/

namespace MakePlan

set_option autoImplicit false

open Text

/-- An empty last line belongs to the folded line before it, or it is a logical line by itself. -/
theorem logical_lines_concat_nil (rows : List (List Char)) :
    logicalLines (rows ++ [[]]) = logicalLines rows ∨
      logicalLines (rows ++ [[]]) = logicalLines rows ++ [[]] := by
  induction rows with
  | nil => exact .inr rfl
  | cons row rest induction =>
      rw [List.cons_append, logicalLines, logicalLines]
      cases continued : isContinued row with
      | false =>
          rcases induction with joined | apart
          · exact .inl (by simp [joined])
          · exact .inr (by simp [apart])
      | true =>
          rcases induction with joined | apart
          · exact .inl (by simp [joined])
          · -- The row joins the empty line if it is the next one, or else changes another line.
            cases restLines : logicalLines rest with
            | nil => exact .inl (by simp [apart, restLines, prepend])
            | cons first others => exact .inr (by simp [apart, restLines, prepend])

theorem Fragment.of_statements_concat_nothing (statements : List Statement) :
    ofStatements (statements ++ [.nothing]) = ofStatements statements := by
  rw [of_statements_append]
  change (ofStatements statements).join {} = _
  rw [join_of_no_commands _ rfl, List.append_nil, List.append_nil]

theorem of_statements_concat_nil (rows : List (List Char)) :
    Fragment.ofStatements (Statement.ofRows (rows ++ [[]])) =
      Fragment.ofStatements (Statement.ofRows rows) := by
  rcases logical_lines_concat_nil rows with joined | apart
  · rw [Statement.ofRows, joined, Statement.ofRows]
  · rw [Statement.ofRows, apart, List.map_append]
    exact Fragment.of_statements_concat_nothing (Statement.ofRows rows)

namespace Makefile

theorem of_statements_newline (text : List Char) :
    Fragment.ofStatements (statements (text ++ ['\n'])) =
      Fragment.ofStatements (statements text) := by
  obtain ⟨rows, last, rfl, oneLine, lastOneLine⟩ := exists_unlines_append text
  have terminated : lines (unlines rows ++ last ++ ['\n']) = rows ++ [last] := by
    rw [List.append_assoc, lines_unlines_append oneLine, lines_append_newline lastOneLine]
    rfl
  have unterminated : lines (unlines rows ++ last) = rows ++ lines last :=
    lines_unlines_append oneLine last
  rw [statements, statements, terminated, unterminated]
  by_cases empty : last = []
  · subst empty
    rw [lines_nil, List.append_nil]
    exact of_statements_concat_nil rows
  · have lastLines := lines_row_append lastOneLine empty []
    rw [List.append_nil] at lastLines
    rw [lastLines]
    simp

theorem read_eq_bare_lines (text : String) :
    read text = (Fragment.ofStatements (Statement.ofRows (bareLines text.toList))).makefile := by
  rw [bareLines, Statement.ofRows, logical_lines_map_trim_end, read, ← of_statements_newline]
  rfl

/-- Line endings and trailing blanks do not matter. However blanks other than line feeds are added
and removed at the ends of lines, the Makefile that is read stays the same, in particular when a
carriage return is put before each line feed or taken away there. -/
theorem read_line_ends :
    (∀ left right : String, SameButLineEnds left.toList right.toList → read left = read right) ∧
      ∀ text : String,
        read (String.ofList (withReturns text.toList)) = read text ∧
          read (String.ofList (withoutReturns text.toList)) = read text ∧
          withoutReturns (withReturns text.toList) = text.toList := by
  have alike : ∀ left right : String,
      SameButLineEnds left.toList right.toList → read left = read right := by
    intro left right same
    rw [read_eq_bare_lines left, read_eq_bare_lines right, same.bare_lines_eq]
  refine ⟨alike, fun text => ⟨?_, ?_, without_returns_with_returns text.toList⟩⟩
  · apply alike
    rw [String.toList_ofList]
    exact .symm _ _ (same_but_line_ends_with_returns text.toList)
  · apply alike
    rw [String.toList_ofList]
    exact same_but_line_ends_without_returns text.toList

/-- Blanks are added behind backslashes and at the end of a text that a backslash leaves open, and a
row that holds only a tab loses it. -/
theorem read_line_ends_open :
    SameButLineEnds "a:\\\nb\n\tx \\\ny\n\t\n\tz\nV=1 \\\n".toList
        "a:\\ \t\r\nb\r\n\tx \\\u2003\ny  \n\r\n\tz\x0c\nV=1 \\\r\n  \t".toList ∧
      read "a:\\\nb\n\tx \\\ny\n\t\n\tz\nV=1 \\\n" =
        { assignments := [⟨"V", "1"⟩], rules := [⟨["a"], ["b"], ["x  y", "z"]⟩] } := by
  have same : SameButLineEnds "a:\\\nb\n\tx \\\ny\n\t\n\tz\nV=1 \\\n".toList
      "a:\\ \t\r\nb\r\n\tx \\\u2003\ny  \n\r\n\tz\x0c\nV=1 \\\r\n  \t".toList := by
    decide +kernel
  refine ⟨same, ?_⟩
  rw [read_line_ends.1 _ _ same]
  decide +kernel

end Makefile

end MakePlan
