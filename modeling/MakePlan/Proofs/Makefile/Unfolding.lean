import MakePlan.Proofs.Makefile.Folding

/-!
# Unfolding

Joining loses, splits and merges no word. The logical lines come one from each run of physical
lines, with the words of that run in order, also when they are made in one pass that keeps the line
that is still open.
-/

namespace MakePlan

set_option autoImplicit false

open Text

/-- Logical lines in the making: those that are finished, and the text of the open one. -/
structure Joining where
  finished : List (List Char) := []
  opened : List Char := []

namespace Joining

def add (joining : Joining) (row : List Char) : Joining :=
  if isContinued row then { joining with opened := joining.opened ++ body row ++ [' '] }
  else { finished := joining.finished ++ [joining.opened ++ body row], opened := [] }

/-- The logical lines when no physical line is left. An open line counts if it is not empty. -/
def close (joining : Joining) : List (List Char) :=
  if joining.opened = [] then joining.finished else joining.finished ++ [joining.opened]

def attach (opened : List Char) : List (List Char) → List (List Char)
  | [] => if opened = [] then [] else [opened]
  | first :: others => (opened ++ first) :: others

theorem attach_nil (lines : List (List Char)) : attach [] lines = lines := by
  cases lines with
  | nil => rfl
  | cons first others => rfl

theorem attach_prepend (opened row : List Char) (lines : List (List Char)) :
    attach opened (prepend row lines) = attach (opened ++ body row ++ [' ']) lines := by
  cases lines with
  | nil => simp [attach, prepend]
  | cons first others => simp [attach, prepend]

/-- What one row does: what was in the making before it, joined to the rows from it on, is what is
in the making after it, joined to the rows behind it. -/
theorem add_attach (joining : Joining) (row : List Char) (rest : List (List Char)) :
    (joining.add row).finished ++ attach (joining.add row).opened (logicalLines rest) =
      joining.finished ++ attach joining.opened (logicalLines (row :: rest)) := by
  cases continued : isContinued row with
  | true =>
      rw [add, if_pos continued, logicalLines, if_pos continued, attach_prepend]
  | false =>
      have notContinued : ¬ isContinued row = true := by simp [continued]
      rw [add, if_neg notContinued, logicalLines, if_neg notContinued, attach_nil, attach,
        List.append_assoc, List.singleton_append]

theorem close_foldl (rows : List (List Char)) (joining : Joining) :
    (rows.foldl add joining).close =
      joining.finished ++ attach joining.opened (logicalLines rows) := by
  induction rows generalizing joining with
  | nil =>
      rw [List.foldl_nil, close, logicalLines, attach]
      split
      · rw [List.append_nil]
      · rfl
  | cons row rest induction =>
      rw [List.foldl_cons, induction (joining.add row), add_attach]

/-- Joining in one pass makes the logical lines. -/
theorem close_foldl_empty (rows : List (List Char)) :
    (rows.foldl add {}).close = logicalLines rows := by
  rw [close_foldl, attach_nil, List.nil_append]

end Joining

/-- The rows cut into blocks of continued rows and the row that closes them, where only the last
block may lack it. -/
structure IsRuns (rows : List (List Char)) (blocks : List (List (List Char))) : Prop where
  flatten : blocks.flatten = rows
  nonempty : ∀ block ∈ blocks, block ≠ []
  continued : ∀ block ∈ blocks, ∀ row ∈ block.dropLast, isContinued row = true
  closed : ∀ block ∈ blocks.dropLast, ∀ row, block.getLast? = some row → isContinued row = false

namespace IsRuns

variable {row : List Char} {rest block : List (List Char)} {blocks : List (List (List Char))}

theorem nil : IsRuns [] [] := by
  constructor <;> simp

theorem cons_closed (closed : isContinued row = false) (isRuns : IsRuns rest blocks) :
    IsRuns (row :: rest) ([row] :: blocks) := by
  constructor
  · simp [isRuns.flatten]
  · simpa using isRuns.nonempty
  · simpa using isRuns.continued
  · intro block inside last isLast
    cases blocks with
    | nil => simp at inside
    | cons next others =>
        rw [List.dropLast_cons_cons] at inside
        cases List.mem_cons.1 inside with
        | inl here =>
            rw [here, List.getLast?_singleton, Option.some.injEq] at isLast
            rw [← isLast]
            exact closed
        | inr there => exact isRuns.closed block there last isLast

theorem cons_continued (continued : isContinued row = true)
    (isRuns : IsRuns rest (block :: blocks)) :
    IsRuns (row :: rest) ((row :: block) :: blocks) := by
  have blockNonempty := isRuns.nonempty block (by simp)
  constructor
  · rw [List.flatten_cons, List.cons_append, ← List.flatten_cons, isRuns.flatten]
  · intro other inside
    cases List.mem_cons.1 inside with
    | inl here => simp [here]
    | inr there => exact isRuns.nonempty other (by simp [there])
  · intro other inside last inFront
    cases List.mem_cons.1 inside with
    | inl here =>
        rw [here, List.dropLast_cons_of_ne_nil blockNonempty] at inFront
        cases List.mem_cons.1 inFront with
        | inl same => rw [same, continued]
        | inr later => exact isRuns.continued block (by simp) last later
    | inr there => exact isRuns.continued other (by simp [there]) last inFront
  · intro other inside last isLast
    cases blocks with
    | nil => simp at inside
    | cons next others =>
        rw [List.dropLast_cons_cons] at inside
        have blockClosed := isRuns.closed block (by simp)
        cases List.mem_cons.1 inside with
        | inl here =>
            rw [here, List.getLast?_cons_of_ne_nil blockNonempty] at isLast
            exact blockClosed last isLast
        | inr there => exact isRuns.closed other (by simp [there]) last isLast

theorem singleton (row : List Char) : IsRuns [row] [[row]] := by
  constructor <;> simp

theorem tail {rows : List (List Char)} (isRuns : IsRuns rows (block :: blocks)) :
    IsRuns blocks.flatten blocks := by
  constructor
  · rfl
  · intro other inside
    exact isRuns.nonempty other (List.mem_cons_of_mem _ inside)
  · intro other inside
    exact isRuns.continued other (List.mem_cons_of_mem _ inside)
  · intro other inside
    apply isRuns.closed other
    cases blocks with
    | nil => simp at inside
    | cons next blocks => exact List.mem_cons_of_mem _ inside

end IsRuns

theorem is_runs_runs (rows : List (List Char)) : IsRuns rows (runs rows) := by
  induction rows with
  | nil => exact .nil
  | cons row rest induction =>
      cases continued : isContinued row with
      | false =>
          rw [runs_cons_closed continued]
          exact induction.cons_closed continued
      | true =>
          cases found : runs rest with
          | nil =>
              rw [found] at induction
              have restEmpty : rest = [] := induction.flatten.symm
              simp only [runs, continued, if_true, restEmpty]
              exact .singleton row
          | cons first others =>
              rw [found] at induction
              simp only [runs, continued, found, if_true]
              exact induction.cons_continued continued

/-- There is no other way to cut the rows. -/
theorem IsRuns.eq_runs {rows : List (List Char)} {blocks : List (List (List Char))}
    (isRuns : IsRuns rows blocks) : blocks = runs rows := by
  induction blocks generalizing rows with
  | nil => rw [← isRuns.flatten]; rfl
  | cons block others induction =>
      have blockNonempty := isRuns.nonempty block (by simp)
      have frontContinued := isRuns.continued block (by simp)
      have joined : block.dropLast ++ [block.getLast blockNonempty] = block :=
        List.dropLast_concat_getLast blockNonempty
      -- The last row of the block ends a run, be it closed or the last row of all.
      have lastRun : runs (block.getLast blockNonempty :: others.flatten) =
          [block.getLast blockNonempty] :: runs others.flatten := by
        cases others with
        | nil => exact runs_singleton _
        | cons next others =>
            apply runs_cons_closed
            apply isRuns.closed block (by simp)
            exact List.getLast?_eq_some_getLast blockNonempty
      calc block :: others
          = (block.dropLast ++ [block.getLast blockNonempty]) :: runs others.flatten := by
            rw [joined, ← induction isRuns.tail]
        _ = runs (block.dropLast ++ block.getLast blockNonempty :: others.flatten) :=
            (runs_append_continued frontContinued lastRun).symm
        _ = runs rows := by
            rw [← isRuns.flatten, List.flatten_cons, ← List.singleton_append, ← List.append_assoc,
              joined]

theorem is_runs_iff {rows : List (List Char)} {blocks : List (List (List Char))} :
    IsRuns rows blocks ↔ blocks = runs rows := by
  constructor
  · exact IsRuns.eq_runs
  · intro same
    rw [same]
    exact is_runs_runs rows

section Block

variable {block : List (List Char)}
  (continued : ∀ row ∈ block.dropLast, isContinued row = true)
include continued

theorem words_flat_map_share :
    words (block.flatMap share) = block.flatMap fun row => words (body row) := by
  induction block with
  | nil => rfl
  | cons row rest induction =>
      cases rest with
      | nil =>
          cases rowContinued : isContinued row with
          | true =>
              rw [List.flatMap_singleton, share_of_continued rowContinued,
                words_append_blank is_blank_space, List.flatMap_singleton]
              exact List.append_nil _
          | false => simp [share_of_closed rowContinued]
      | cons next rest =>
          rw [List.dropLast_cons_cons, List.forall_mem_cons] at continued
          rw [List.flatMap_cons, share_of_continued continued.1, List.append_assoc,
            List.singleton_append, words_append_blank is_blank_space, induction continued.2]
          rfl

/-- A block's line begins as the block does, unless the block begins with nothing. -/
theorem head?_flat_map_share :
    (block.flatMap share).head? = some '\t' ↔
      ∃ first, block.head? = some first ∧ (body first).head? = some '\t' := by
  cases block with
  | nil => simp
  | cons first rest =>
      simp only [List.head?_cons, Option.some.injEq, exists_eq_left']
      cases bodyEq : body first with
      | cons c more => simp [share, bodyEq]
      | nil =>
          cases firstContinued : isContinued first with
          | true => simp [share, bodyEq, firstContinued]
          | false =>
              cases rest with
              | nil => simp [share, bodyEq, firstContinued]
              | cons next rest =>
                  have contradictory := continued first (by simp)
                  rw [firstContinued] at contradictory
                  contradiction

end Block

theorem length_prepend (row : List Char) {lines : List (List Char)} (nonempty : lines ≠ []) :
    (prepend row lines).length = lines.length := by
  cases lines with
  | nil => contradiction
  | cons first others => rfl

theorem logical_lines_ne_nil {rows : List (List Char)} (nonempty : rows ≠ []) :
    logicalLines rows ≠ [] := by
  rw [logical_lines_eq_map_runs]
  intro empty
  exact runs_ne_nil nonempty (List.map_eq_nil_iff.1 empty)

/-- A logical line ends with each closed line, and at the end of the text. -/
theorem length_logical_lines (rows : List (List Char)) :
    (logicalLines rows).length =
      rows.countP (!isContinued ·) + if rows.getLast?.any isContinued then 1 else 0 := by
  induction rows with
  | nil => rfl
  | cons row rest induction =>
      cases rest with
      | nil => cases continued : isContinued row <;> simp [logicalLines, prepend, continued]
      | cons next rest =>
          rw [List.getLast?_cons_cons, List.countP_cons, Nat.add_right_comm, ← induction]
          cases continued : isContinued row with
          | true =>
              have restLines : logicalLines (next :: rest) ≠ [] := logical_lines_ne_nil (by simp)
              rw [logicalLines, if_pos continued, length_prepend row restLines]
              rfl
          | false =>
              rw [logical_lines_cons_closed continued, List.length_cons]
              rfl

/-- Unfolding loses, splits and merges no word. There is one logical line for each line that is not
continued, and one more when the last line is continued. The lines fall into maximal runs of
continued lines with the line that closes them, and the logical line of a run has the words of its
bodies, in order, and begins with a tab only if the first of the bodies does. The one pass that
keeps an open line makes the same lines. -/
theorem logical_lines_keep_words (rows : List (List Char)) :
    (rows.foldl Joining.add {}).close = logicalLines rows ∧
      (logicalLines rows).length =
        rows.countP (!isContinued ·) + (if rows.getLast?.any isContinued then 1 else 0) ∧
      (∀ blocks, IsRuns rows blocks ↔ blocks = runs rows) ∧
      (logicalLines rows).map words =
        (runs rows).map (fun block => block.flatMap fun row => words (body row)) ∧
      (logicalLines rows).map (fun line => decide (line.head? = some '\t')) =
        (runs rows).map fun block => block.head?.any fun first =>
          (body first).head? = some '\t' := by
  have blockContinued : ∀ block ∈ runs rows, ∀ row ∈ block.dropLast, isContinued row = true :=
    (is_runs_runs rows).continued
  refine ⟨Joining.close_foldl_empty rows, length_logical_lines rows, fun _ => is_runs_iff, ?_, ?_⟩
  · rw [logical_lines_eq_map_runs, List.map_map]
    apply List.map_congr_left
    intro block inside
    exact words_flat_map_share (blockContinued block inside)
  · rw [logical_lines_eq_map_runs, List.map_map]
    apply List.map_congr_left
    intro block inside
    rw [Bool.eq_iff_iff, Function.comp_apply, decide_eq_true_eq,
      head?_flat_map_share (blockContinued block inside), Option.any_eq_true]
    simp only [decide_eq_true_eq]

end MakePlan
