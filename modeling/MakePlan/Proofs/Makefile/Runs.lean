import MakePlan.Makefile.Reader

/-!
# Runs of joined lines

A run is a row of continued lines with the line that closes it. Each run makes one logical line, to
which every line of the run adds its share.
-/

namespace MakePlan

set_option autoImplicit false

/-- The maximal runs of physical lines that are joined. The last run of a text may lack the line
that closes it. -/
def runs : List (List Char) → List (List (List Char))
  | [] => []
  | row :: rest =>
      if isContinued row then
        match runs rest with
        | [] => [[row]]
        | first :: others => (row :: first) :: others
      else [row] :: runs rest

/-- What a physical line adds to its logical line. -/
def share (row : List Char) : List Char := body row ++ if isContinued row then [' '] else []

theorem share_of_continued {row : List Char} (continued : isContinued row = true) :
    share row = body row ++ [' '] := by
  simp [share, continued]

theorem share_of_closed {row : List Char} (closed : isContinued row = false) :
    share row = body row := by
  simp [share, closed]

theorem runs_cons_closed {row : List Char} (closed : isContinued row = false)
    (rest : List (List Char)) : runs (row :: rest) = [row] :: runs rest := by
  simp [runs, closed]

theorem runs_ne_nil {rows : List (List Char)} (nonempty : rows ≠ []) : runs rows ≠ [] := by
  cases rows with
  | nil => contradiction
  | cons row rest =>
      rw [runs]
      split
      · split <;> simp
      · simp

theorem flatten_runs (rows : List (List Char)) : (runs rows).flatten = rows := by
  induction rows with
  | nil => rfl
  | cons row rest induction =>
      cases continued : isContinued row with
      | false =>
          rw [runs_cons_closed continued, List.flatten_cons, induction, List.singleton_append]
      | true =>
          cases found : runs rest with
          | nil =>
              rw [found] at induction
              simpa [runs, continued, found] using induction
          | cons first others =>
              rw [found] at induction
              simpa [runs, continued, found] using induction

/-- There is one logical line for each run. -/
theorem logical_lines_eq_map_runs (rows : List (List Char)) :
    logicalLines rows = (runs rows).map (·.flatMap share) := by
  induction rows with
  | nil => rfl
  | cons row rest induction =>
      cases continued : isContinued row with
      | false => simp [logicalLines, runs, continued, induction, share_of_closed continued]
      | true =>
          cases found : runs rest with
          | nil =>
              simp [logicalLines, runs, continued, induction, found, prepend,
                share_of_continued continued]
          | cons first others =>
              simp [logicalLines, runs, continued, induction, found, prepend,
                share_of_continued continued]

theorem runs_append {front : List (List Char)}
    (closed : ∀ row, front.getLast? = some row → isContinued row = false)
    (rest : List (List Char)) : runs (front ++ rest) = runs front ++ runs rest := by
  induction front with
  | nil => rfl
  | cons row front induction =>
      have frontClosed : ∀ other, front.getLast? = some other → isContinued other = false := by
        intro other last
        apply closed
        rw [List.getLast?_cons, last]
        rfl
      have splitRuns := induction frontClosed
      cases continued : isContinued row with
      | false =>
          rw [List.cons_append, runs_cons_closed continued, runs_cons_closed continued, splitRuns,
            List.cons_append]
      | true =>
          -- A continued row is not the last one, so the run that it belongs to is at hand.
          have nonempty : front ≠ [] := by
            intro empty
            have lastClosed := closed row (by simp [empty])
            rw [continued] at lastClosed
            contradiction
          cases frontRuns : runs front with
          | nil => exact absurd frontRuns (runs_ne_nil nonempty)
          | cons first others => simp [runs, continued, splitRuns, frontRuns]

/-- Continued rows belong to the first run of the rows after them. -/
theorem runs_append_continued {opened rest first : List (List Char)}
    {others : List (List (List Char))} (continued : ∀ row ∈ opened, isContinued row = true)
    (found : runs rest = first :: others) :
    runs (opened ++ rest) = (opened ++ first) :: others := by
  induction opened with
  | nil => exact found
  | cons row opened induction =>
      have othersContinued := induction fun other inside => continued other (by simp [inside])
      simp [runs, continued row (by simp), othersContinued]

theorem exists_runs_cons (row : List Char) (later : List (List Char)) :
    ∃ more others, ∀ other, isContinued other = isContinued row →
      runs (other :: later) = (other :: more) :: others := by
  cases continued : isContinued row with
  | false => exact ⟨[], runs later, fun other closed => runs_cons_closed closed later⟩
  | true =>
      cases found : runs later with
      | nil => exact ⟨[], [], fun other same => by simp [runs, same, found]⟩
      | cons first others => exact ⟨first, others, fun other same => by simp [runs, same, found]⟩

theorem exists_settled_opened (rows : List (List Char)) :
    ∃ settled opened, rows = settled ++ opened ∧
      (∀ row, settled.getLast? = some row → isContinued row = false) ∧
      ∀ row ∈ opened, isContinued row = true := by
  induction rows with
  | nil => exact ⟨[], [], rfl, by simp, by simp⟩
  | cons row rest induction =>
      obtain ⟨settled, opened, restEq, closed, continued⟩ := induction
      by_cases whole : settled = [] ∧ isContinued row = true
      · refine ⟨[], row :: opened, by simp [restEq, whole.1], by simp, ?_⟩
        intro other inside
        rcases List.mem_cons.1 inside with here | there
        · exact here ▸ whole.2
        · exact continued other there
      · refine ⟨row :: settled, opened, by simp [restEq], ?_, continued⟩
        intro last isLast
        cases settled with
        | nil =>
            have rowClosed : isContinued row = false := by simpa using whole
            simp at isLast
            rw [← isLast, rowClosed]
        | cons next settled => exact closed last (by simpa using isLast)

end MakePlan
