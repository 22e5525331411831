import MakePlan.Proofs.Makefile.Rows

/-!
# The Makefile tells the plan

Nothing in a plan is escaped, and no list says how long it is. Still the text determines the plan:
the rows of a list are counted by their tabs, and every other text has a row of its own.
-/

namespace MakePlan.Plan

set_option autoImplicit false

theorem take_while_folded_rows (items : List String) {front : List String}
    (tabbed : ∀ row ∈ front, isTabbed row = true) (rest : List String) :
    (foldedRows items ++ (front ++ "" :: rest)).takeWhile isTabbed =
      if items = [] then [] else foldedRows items ++ front := by
  split
  · rename_i empty
    rw [empty]
    rfl
  · rename_i nonempty
    rw [List.takeWhile_append_of_pos (folded_rows_tabbed nonempty),
      List.takeWhile_append_of_pos tabbed]
    simp [isTabbed]

/-- A folded list is told apart from tabbed rows after it, as long as their number is known and an
empty row ends them. -/
theorem folded_rows_append_inj {left right front leftRest rightRest : List String}
    (tabbed : ∀ row ∈ front, isTabbed row = true)
    (same : foldedRows left ++ (front ++ "" :: leftRest) =
      foldedRows right ++ (front ++ "" :: rightRest)) :
    left = right ∧ leftRest = rightRest := by
  have indented := congrArg (List.takeWhile isTabbed) same
  rw [take_while_folded_rows left tabbed, take_while_folded_rows right tabbed] at indented
  have lists : left = right := by
    split at indented
    · rename_i leftEmpty
      split at indented
      · rename_i rightEmpty
        rw [leftEmpty, rightEmpty]
      · exact absurd (List.append_eq_nil_iff.1 indented.symm).1 (folded_rows_ne_nil right)
    · split at indented
      · exact absurd (List.append_eq_nil_iff.1 indented).1 (folded_rows_ne_nil left)
      · exact folded_rows_inj.1 (List.append_cancel_right indented)
  subst lists
  have rests := List.append_cancel_left (List.append_cancel_left same)
  exact ⟨rfl, (List.cons.inj rests).2⟩

/-- A unit is known from its rows once its object is known. -/
theorem unit_rows_inj {left right : CompilationUnit} (object : left.object = right.object)
    (same : unitRows left = unitRows right) : left = right := by
  cases left with
  | mk leftObject leftSource =>
      cases right with
      | mk rightObject rightSource =>
          have objects : leftObject = rightObject := object
          subst objects
          simpa [unitRows] using same

theorem flat_map_unit_rows_inj {left right : List CompilationUnit}
    (objects : left.map (·.object) = right.map (·.object))
    (same : left.flatMap unitRows = right.flatMap unitRows) : left = right := by
  induction left generalizing right with
  | nil =>
      cases right with
      | nil => rfl
      | cons unit units => simp at objects
  | cons unit units induction =>
      cases right with
      | nil => simp at objects
      | cons other others =>
          rw [List.map_cons, List.map_cons] at objects
          obtain ⟨object, otherObjects⟩ := List.cons.inj objects
          rw [List.flatMap_cons, List.flatMap_cons] at same
          obtain ⟨rows, otherRows⟩ := List.append_inj same rfl
          rw [unit_rows_inj object rows, induction otherObjects otherRows]

theorem rows_inj {left right : Plan} : left.rows = right.rows ↔ left = right := by
  refine ⟨fun same => ?_, congrArg rows⟩
  simp only [rows, toolRows, goalRows, List.cons_append, List.nil_append, List.append_assoc,
    List.cons.injEq, String.append_right_inj, true_and] at same
  obtain ⟨compiler, cflags, ldflags, ldlibs, fromDeps⟩ := same
  have noFront : ∀ row ∈ ([] : List String), isTabbed row = true := by simp
  obtain ⟨deps, fromTarget⟩ := folded_rows_append_inj noFront fromDeps
  obtain ⟨heading, fromObjects⟩ := List.cons.inj fromTarget
  have linkTabbed : ∀ row ∈ ["\t$(CC) -o $@ $^ $(LDLIBS) $(LDFLAGS)"], isTabbed row = true := by
    decide
  obtain ⟨objects, fromPhony⟩ := folded_rows_append_inj linkTabbed fromObjects
  simp only [List.cons.injEq, String.append_right_inj, true_and] at fromPhony
  obtain ⟨buildDir, unitRowsEq⟩ := fromPhony
  have target := (String.append_left_inj _).1 heading
  have units := flat_map_unit_rows_inj objects unitRowsEq
  cases left
  cases right
  rw [Plan.mk.injEq]
  exact ⟨compiler, cflags, ldflags, ldlibs, deps, units, target, buildDir⟩

/-- Two plans without line feeds in their texts have the same Makefile only if they are the same
plan. -/
theorem render_inj {left right : Plan} (leftOneLine : left.OneLine)
    (rightOneLine : right.OneLine) : left.render = right.render ↔ left = right := by
  refine ⟨fun same => ?_, congrArg render⟩
  have rowsAlike : left.rows.map String.toList = right.rows.map String.toList := by
    rw [← lines_render leftOneLine, ← lines_render rightOneLine, same]
  exact rows_inj.1 ((List.map_inj_right fun _ _ => String.toList_injective).1 rowsAlike)

/-- One dependency that looks like a continued row, and an object with the mark of a rule. -/
def disguised : Plan where
  compiler := ""
  cflags := "{target}"
  ldflags := "\\"
  ldlibs := " "
  deps := ["a\t\\"]
  units := [⟨"x: y", "z"⟩]
  target := ":"
  buildDir := ""

def undisguised : Plan :=
  { disguised with deps := ["a", ""], units := [⟨"x", "y: z"⟩] }

theorem render_inj_disguised :
    disguised.OneLine ∧ undisguised.OneLine ∧
      disguised.units.flatMap unitRows = undisguised.units.flatMap unitRows ∧
      disguised.render ≠ undisguised.render := by
  have oneLine : disguised.OneLine := by
    constructor <;> decide
  have otherOneLine : undisguised.OneLine := by
    constructor <;> decide
  have different : disguised ≠ undisguised := by decide
  exact ⟨oneLine, otherOneLine, by decide,
    fun same => different ((render_inj oneLine otherOneLine).1 same)⟩

end MakePlan.Plan
