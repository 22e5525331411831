/-!
# Physical lines

A text is cut at its line feeds. A line feed ends a line, so nothing follows the last one, and a
last line without a line feed counts too.
-/

namespace MakePlan.Text

set_option autoImplicit false

def lines : List Char → List (List Char)
  | [] => []
  | c :: rest =>
      if c = '\n' then [] :: lines rest
      else
        match lines rest with
        | [] => [[c]]
        | first :: others => (c :: first) :: others

def unlines (rows : List (List Char)) : List Char := rows.flatMap (· ++ ['\n'])

def block (rows : List String) : String := String.ofList (unlines (rows.map String.toList))

@[simp] theorem lines_nil : lines [] = [] := rfl

@[simp] theorem unlines_nil : unlines [] = [] := rfl

@[simp] theorem unlines_cons (row : List Char) (rows : List (List Char)) :
    unlines (row :: rows) = row ++ '\n' :: unlines rows := by
  simp [unlines]

theorem lines_append_newline {row : List Char} (oneLine : '\n' ∉ row) (rest : List Char) :
    lines (row ++ '\n' :: rest) = row :: lines rest := by
  induction row with
  | nil => simp [lines]
  | cons c row induction =>
      have other : c ≠ '\n' := by
        intro same
        exact oneLine (by simp [same])
      have tailOneLine : '\n' ∉ row := fun inside => oneLine (by simp [inside])
      simp [lines, other, induction tailOneLine]

theorem lines_unlines_append {rows : List (List Char)} (oneLine : ∀ row ∈ rows, '\n' ∉ row)
    (rest : List Char) : lines (unlines rows ++ rest) = rows ++ lines rest := by
  induction rows with
  | nil => rfl
  | cons row rows induction =>
      have rowsOneLine : ∀ other ∈ rows, '\n' ∉ other :=
        fun other inside => oneLine other (by simp [inside])
      rw [unlines_cons, List.append_assoc, List.cons_append,
        lines_append_newline (oneLine row (by simp)), induction rowsOneLine, List.cons_append]

/-- Reading terminated rows back gives the rows, when none holds a line feed. -/
theorem lines_unlines {rows : List (List Char)} (oneLine : ∀ row ∈ rows, '\n' ∉ row) :
    lines (unlines rows) = rows := by
  simpa using lines_unlines_append oneLine []

/-- The lines of a block are its rows, when none holds a line feed. -/
theorem lines_block {rows : List String} (oneLine : ∀ row ∈ rows, '\n' ∉ row.toList) :
    lines (block rows).toList = rows.map String.toList := by
  rw [block, String.toList_ofList]
  exact lines_unlines (List.forall_mem_map.2 oneLine)

theorem lines_one_line (text : List Char) : ∀ row ∈ lines text, '\n' ∉ row := by
  induction text with
  | nil => simp
  | cons c rest induction =>
      by_cases feed : c = '\n'
      · simpa [lines, feed] using induction
      · cases restLines : lines rest with
        | nil => simp [lines, feed, restLines, Ne.symm feed]
        | cons first others =>
            rw [restLines] at induction
            simpa [lines, feed, restLines, Ne.symm feed] using induction

theorem lines_ne_nil {text : List Char} (nonempty : text ≠ []) : lines text ≠ [] := by
  cases text with
  | nil => contradiction
  | cons c rest =>
      simp only [lines]
      split
      · simp
      · split <;> simp

theorem lines_eq_cons {text : List Char} (nonempty : text ≠ []) :
    lines text = text.takeWhile (· ≠ '\n') :: lines (text.dropWhile (· ≠ '\n')).tail := by
  induction text with
  | nil => contradiction
  | cons c rest induction =>
      by_cases feed : c = '\n'
      · simp [lines, feed]
      · by_cases empty : rest = []
        · simp [lines, feed, empty]
        · simp [lines, feed, induction empty]

theorem lines_row_append {row : List Char} (oneLine : '\n' ∉ row) (nonempty : row ≠ [])
    (rest : List Char) :
    lines (row ++ rest) =
      (row ++ rest.takeWhile (· ≠ '\n')) :: lines (rest.dropWhile (· ≠ '\n')).tail := by
  have passed : ∀ c ∈ row, decide (c ≠ '\n') = true := by
    intro c inside
    rw [decide_eq_true_eq]
    intro feed
    exact oneLine (feed ▸ inside)
  rw [lines_eq_cons (by simp [nonempty]), List.takeWhile_append_of_pos passed,
    List.dropWhile_append_of_pos passed]

/-- A text consists of terminated rows and a last row, which may be empty. -/
theorem exists_unlines_append (text : List Char) :
    ∃ rows last, text = unlines rows ++ last ∧ (∀ row ∈ rows, '\n' ∉ row) ∧ '\n' ∉ last := by
  induction text with
  | nil => exact ⟨[], [], rfl, by simp, by simp⟩
  | cons c rest induction =>
      obtain ⟨rows, last, restEq, oneLine, lastOneLine⟩ := induction
      by_cases feed : c = '\n'
      · exact ⟨[] :: rows, last, by simp [feed, restEq], by simpa using oneLine, lastOneLine⟩
      · cases rows with
        | nil =>
            have longerOneLine : '\n' ∉ c :: last := by simp [Ne.symm feed, lastOneLine]
            exact ⟨[], c :: last, by simp [restEq], by simp, longerOneLine⟩
        | cons row rows =>
            obtain ⟨rowOneLine, othersOneLine⟩ := List.forall_mem_cons.1 oneLine
            have longerOneLine : '\n' ∉ c :: row := by simp [Ne.symm feed, rowOneLine]
            exact ⟨(c :: row) :: rows, last, by simp [restEq],
              List.forall_mem_cons.2 ⟨longerOneLine, othersOneLine⟩, lastOneLine⟩

/-- A text that ends in a line feed keeps its lines, whatever is put after it. -/
theorem lines_append {front : List Char} (terminated : front = [] ∨ front.getLast? = some '\n')
    (rest : List Char) : lines (front ++ rest) = lines front ++ lines rest := by
  induction front with
  | nil => rfl
  | cons c front induction =>
      have frontTerminated : front = [] ∨ front.getLast? = some '\n' := by
        cases front with
        | nil => exact .inl rfl
        | cons next front => simpa using terminated
      have splitLines := induction frontTerminated
      by_cases feed : c = '\n'
      · simp [lines, feed, splitLines]
      · have nonempty : front ≠ [] := by
          intro empty
          simp [empty, feed] at terminated
        cases frontLines : lines front with
        | nil => exact absurd frontLines (lines_ne_nil nonempty)
        | cons first others => simp [lines, feed, splitLines, frontLines]

end MakePlan.Text
