import MakePlan.Proofs.Text.Words
import MakePlan.Text.Lines
import Mathlib.Logic.Relation

/-!
# The ends of lines

Blanks at the end of a line can be added and removed. Two texts come from each other in this way
exactly when their bare lines are the same, and putting carriage returns before the line feeds or
taking them away is such a change.
-/

namespace MakePlan.Text

set_option autoImplicit false

/-- What stands behind the end of a line: a line feed comes next, or the text is over. -/
def AtLineEnd (rest : List Char) : Prop := rest = [] ∨ rest.head? = some '\n'

/-- One blank more at the end of a line. -/
inductive AddsBlank : List Char → List Char → Prop
  | atEnd (front : List Char) (c : Char) (rest : List Char) (blank : isBlank c = true)
      (withinLine : c ≠ '\n') (lineEnd : AtLineEnd rest) :
      AddsBlank (front ++ rest) (front ++ c :: rest)

/-- Texts that come from each other by adding and removing blanks at the ends of lines. -/
def SameButLineEnds (left right : List Char) : Prop := Relation.EqvGen AddsBlank left right

/-- The lines of a text without the blanks at their ends. What follows the last line feed is a line
as well, even if it is empty. -/
def bareLines (text : List Char) : List (List Char) := (lines (text ++ ['\n'])).map trimEnd

theorem AtLineEnd.exists_later {rest : List Char} (lineEnd : AtLineEnd rest) :
    ∃ later, rest ++ ['\n'] = '\n' :: later := by
  cases lineEnd with
  | inl empty => exact ⟨[], by rw [empty]; rfl⟩
  | inr feed =>
      obtain ⟨later, rfl⟩ := List.head?_eq_some_iff.1 feed
      exact ⟨later ++ ['\n'], rfl⟩

section Rows

variable {rows : List (List Char)} (oneLine : ∀ row ∈ rows, '\n' ∉ row) {row : List Char}
  (rowOneLine : '\n' ∉ row)
include oneLine rowOneLine

theorem bare_lines_row_append {rest later : List Char} (lineEnd : rest ++ ['\n'] = '\n' :: later) :
    bareLines (unlines rows ++ row ++ rest) =
      rows.map trimEnd ++ trimEnd row :: (lines later).map trimEnd := by
  rw [bareLines, List.append_assoc, lineEnd, List.append_assoc, lines_unlines_append oneLine,
    lines_append_newline rowOneLine, List.map_append, List.map_cons]

theorem bare_lines_unlines_append :
    bareLines (unlines rows ++ row) = rows.map trimEnd ++ [trimEnd row] := by
  have nothingLater : [] ++ ['\n'] = '\n' :: [] := rfl
  have allLines := bare_lines_row_append oneLine rowOneLine nothingLater
  rw [List.append_nil] at allLines
  exact allLines

end Rows

/-- What is put at the end of a line gets lost with the blanks there. -/
theorem AddsBlank.bare_lines_eq {text longer : List Char} (added : AddsBlank text longer) :
    bareLines text = bareLines longer := by
  obtain ⟨front, c, rest, blank, withinLine, lineEnd⟩ := added
  obtain ⟨rows, last, rfl, oneLine, lastOneLine⟩ := exists_unlines_append front
  obtain ⟨later, restEq⟩ := lineEnd.exists_later
  have longerOneLine : '\n' ∉ last ++ [c] := by simp [lastOneLine, Ne.symm withinLine]
  have longerEq : unlines rows ++ last ++ c :: rest = unlines rows ++ (last ++ [c]) ++ rest := by
    simp
  have sameRow : trimEnd (last ++ [c]) = trimEnd last :=
    trim_end_append_all_blank last (by simp [AllBlank, blank])
  rw [longerEq, bare_lines_row_append oneLine lastOneLine restEq,
    bare_lines_row_append oneLine longerOneLine restEq, sameRow]

namespace SameButLineEnds

variable {left right rest : List Char}

theorem bare_lines_eq (same : SameButLineEnds left right) : bareLines left = bareLines right := by
  induction same with
  | rel text longer added => exact added.bare_lines_eq
  | refl text => rfl
  | symm left right _ induction => exact induction.symm
  | trans left middle right _ _ first second => exact first.trans second

theorem cons (c : Char) (same : SameButLineEnds left right) :
    SameButLineEnds (c :: left) (c :: right) := by
  induction same with
  | rel text longer added =>
      obtain ⟨front, addedBlank, rest, blank, withinLine, lineEnd⟩ := added
      exact .rel _ _ (.atEnd (c :: front) addedBlank rest blank withinLine lineEnd)
  | refl text => exact .refl _
  | symm left right _ induction => exact .symm _ _ induction
  | trans left middle right _ _ first second => exact .trans _ _ _ first second

theorem append_left (front : List Char) (same : SameButLineEnds left right) :
    SameButLineEnds (front ++ left) (front ++ right) := by
  induction front with
  | nil => exact same
  | cons c front induction => exact induction.cons c

theorem gap_append {gap : List Char} (blank : AllBlank gap) (oneLine : '\n' ∉ gap)
    (lineEnd : AtLineEnd rest) : SameButLineEnds rest (gap ++ rest) := by
  induction gap with
  | nil => exact .refl _
  | cons c gap induction =>
      obtain ⟨cBlank, gapBlank⟩ := List.forall_mem_cons.1 blank
      rw [List.mem_cons, not_or] at oneLine
      obtain ⟨withinLine, gapOneLine⟩ := oneLine
      have added : AddsBlank rest (c :: rest) :=
        .atEnd [] c rest cBlank (Ne.symm withinLine) lineEnd
      exact .trans _ _ _ (.rel _ _ added) ((induction gapBlank gapOneLine).cons c)

theorem trim_end_append {row : List Char} (oneLine : '\n' ∉ row) (lineEnd : AtLineEnd rest) :
    SameButLineEnds (trimEnd row ++ rest) (row ++ rest) := by
  obtain ⟨gap, blank, joined⟩ := exists_gap_trim_end row
  have gapOneLine : '\n' ∉ gap := by
    intro inside
    exact oneLine (joined ▸ List.mem_append_right _ inside)
  have rowEq : row ++ rest = trimEnd row ++ (gap ++ rest) := by
    rw [← List.append_assoc, ← joined]
  rw [rowEq]
  exact (gap_append blank gapOneLine lineEnd).append_left (trimEnd row)

theorem map_trim_end {rows : List (List Char)} (oneLine : ∀ row ∈ rows, '\n' ∉ row)
    {last : List Char} (lastOneLine : '\n' ∉ last) :
    SameButLineEnds (unlines (rows.map trimEnd) ++ trimEnd last) (unlines rows ++ last) := by
  induction rows with
  | nil => simpa using trim_end_append lastOneLine (.inl rfl)
  | cons row rows induction =>
      obtain ⟨rowOneLine, rowsOneLine⟩ := List.forall_mem_cons.1 oneLine
      have later := (induction rowsOneLine).cons '\n'
      rw [List.map_cons, unlines_cons, unlines_cons, List.append_assoc, List.append_assoc]
      exact .trans _ _ _ (later.append_left (trimEnd row)) (trim_end_append rowOneLine (.inr rfl))

theorem of_bare_lines_eq (same : bareLines left = bareLines right) :
    SameButLineEnds left right := by
  obtain ⟨rows, last, rfl, oneLine, lastOneLine⟩ := exists_unlines_append left
  obtain ⟨others, otherLast, rfl, othersOneLine, otherLastOneLine⟩ :=
    exists_unlines_append right
  rw [bare_lines_unlines_append oneLine lastOneLine,
    bare_lines_unlines_append othersOneLine otherLastOneLine] at same
  obtain ⟨sameRows, sameLast⟩ := List.append_inj' same rfl
  have bareLeft := map_trim_end oneLine lastOneLine
  have bareRight := map_trim_end othersOneLine otherLastOneLine
  rw [← sameRows, ← List.singleton_inj.1 sameLast] at bareRight
  exact .trans _ _ _ (.symm _ _ bareLeft) bareRight

end SameButLineEnds

/-- The bare lines are a normal form: they tell texts apart that differ elsewhere, and no others. -/
theorem same_but_line_ends_iff {left right : List Char} :
    SameButLineEnds left right ↔ bareLines left = bareLines right :=
  ⟨SameButLineEnds.bare_lines_eq, SameButLineEnds.of_bare_lines_eq⟩

instance (left right : List Char) : Decidable (SameButLineEnds left right) :=
  decidable_of_iff _ same_but_line_ends_iff.symm

def withReturns (text : List Char) : List Char :=
  text.flatMap fun c => if c = '\n' then ['\r', '\n'] else [c]

/-- The text without the carriage returns that stand before line feeds, one for each. -/
def withoutReturns : List Char → List Char
  | '\r' :: '\n' :: rest => '\n' :: withoutReturns rest
  | c :: rest => c :: withoutReturns rest
  | [] => []

theorem adds_blank_return (rest : List Char) : AddsBlank ('\n' :: rest) ('\r' :: '\n' :: rest) :=
  .atEnd [] '\r' ('\n' :: rest) (by decide) (by decide) (.inr rfl)

theorem same_but_line_ends_with_returns (text : List Char) :
    SameButLineEnds text (withReturns text) := by
  induction text with
  | nil => exact .refl _
  | cons c rest induction =>
      by_cases feed : c = '\n'
      · subst feed
        exact .trans _ _ _ (induction.cons '\n') (.rel _ _ (adds_blank_return _))
      · simpa [withReturns, feed] using induction.cons c

theorem same_but_line_ends_without_returns (text : List Char) :
    SameButLineEnds (withoutReturns text) text := by
  fun_induction withoutReturns text with
  | case1 rest induction =>
      exact .trans _ _ _ (induction.cons '\n') (.rel _ _ (adds_blank_return rest))
  | case2 c rest _ induction => exact induction.cons c
  | case3 => exact .refl _

theorem head?_with_returns (text : List Char) : (withReturns text).head? ≠ some '\n' := by
  cases text with
  | nil => simp [withReturns]
  | cons c rest =>
      by_cases feed : c = '\n'
      · simp [withReturns, feed]
      · simp [withReturns, feed]

theorem without_returns_with_returns (text : List Char) :
    withoutReturns (withReturns text) = text := by
  induction text with
  | nil => rfl
  | cons c rest induction =>
      by_cases feed : c = '\n'
      · subst feed
        exact congrArg ('\n' :: ·) induction
      · -- A carriage return of the text itself is not followed by a line feed now.
        have joined : withReturns (c :: rest) = c :: withReturns rest := by
          simp [withReturns, feed]
        rw [joined, withoutReturns, induction]
        intro later _ begins
        exact head?_with_returns rest (by rw [begins]; rfl)

end MakePlan.Text
