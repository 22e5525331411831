import MakePlan.Makefile.Layout

/-!
# The rows of a plan's Makefile

Rows are the lines of the text as long as no text of the plan breaks one of them. A folded list is a
block of rows that begin with a tab, unless it is empty.
-/

namespace MakePlan.Plan

set_option autoImplicit false

open Text

/-- The plans all of whose texts stay on one line. -/
structure OneLine (plan : Plan) : Prop where
  compiler : '\n' ∉ plan.compiler.toList
  cflags : '\n' ∉ plan.cflags.toList
  ldflags : '\n' ∉ plan.ldflags.toList
  ldlibs : '\n' ∉ plan.ldlibs.toList
  deps : ∀ dep ∈ plan.deps, '\n' ∉ dep.toList
  objects : ∀ unit ∈ plan.units, '\n' ∉ unit.object.toList
  sources : ∀ unit ∈ plan.units, '\n' ∉ unit.source.toList
  target : '\n' ∉ plan.target.toList
  buildDir : '\n' ∉ plan.buildDir.toList

theorem folded_rows_one_line {items : List String} (oneLine : ∀ item ∈ items, '\n' ∉ item.toList) :
    ∀ row ∈ foldedRows items, '\n' ∉ row.toList := by
  induction items with
  | nil => simp [foldedRows]
  | cons item items induction =>
      cases items with
      | nil => simpa [foldedRows] using oneLine
      | cons next items =>
          have others :=
            induction fun other inside => oneLine other (List.mem_cons_of_mem _ inside)
          intro row inside
          rcases List.mem_cons.1 inside with here | there
          · simp [here, oneLine item (by simp)]
          · exact others row there

theorem unit_rows_one_line {unit : CompilationUnit} (object : '\n' ∉ unit.object.toList)
    (source : '\n' ∉ unit.source.toList) : ∀ row ∈ unitRows unit, '\n' ∉ row.toList := by
  simp [unitRows, object, source]

theorem goal_rows_one_line {plan : Plan} (oneLine : plan.OneLine) :
    ∀ row ∈ plan.goalRows, '\n' ∉ row.toList := by
  have libraries :
      ∀ row ∈ ["LDLIBS\t= " ++ plan.ldlibs, "", "DEPS\t=\t\t\\"], '\n' ∉ row.toList := by
    simp [oneLine.ldlibs]
  have deps := folded_rows_one_line oneLine.deps
  have heading : ∀ row ∈ ["", plan.target ++ ":\t\t\t\\"], '\n' ∉ row.toList := by
    simp [oneLine.target]
  have objects := folded_rows_one_line (List.forall_mem_map.2 oneLine.objects)
  have cleanOneLine : '\n' ∉ ("\t@ rm -fR " ++ plan.buildDir).toList := by
    simp [oneLine.buildDir]
  intro row inside
  simp only [goalRows, List.mem_append] at inside
  rcases inside with (((library | dep) | opening) | object) | closing
  · exact libraries row library
  · exact deps row dep
  · exact heading row opening
  · exact objects row object
  · simp only [List.mem_cons, List.not_mem_nil, or_false] at closing
    rcases closing with link | gap | phony | clean | command
    · rw [link]; decide
    · rw [gap]; decide
    · rw [phony]; decide
    · rw [clean]; decide
    · rw [command]; exact cleanOneLine

theorem rows_one_line {plan : Plan} (oneLine : plan.OneLine) :
    ∀ row ∈ plan.rows, '\n' ∉ row.toList := by
  have tools : ∀ row ∈ plan.toolRows, '\n' ∉ row.toList := by
    simp [toolRows, oneLine.compiler, oneLine.cflags, oneLine.ldflags]
  intro row inside
  simp only [rows, List.mem_append, List.mem_flatMap] at inside
  rcases inside with (tool | goal) | ⟨unit, unitInside, rowInside⟩
  · exact tools row tool
  · exact goal_rows_one_line oneLine row goal
  · exact unit_rows_one_line (oneLine.objects unit unitInside) (oneLine.sources unit unitInside)
      row rowInside

theorem lines_render {plan : Plan} (oneLine : plan.OneLine) :
    lines plan.render.toList = plan.rows.map String.toList :=
  lines_block (rows_one_line oneLine)

def isTabbed (row : String) : Bool := row.toList.head? = some '\t'

theorem folded_rows_ne_nil (items : List String) : foldedRows items ≠ [] := by
  unfold foldedRows
  split <;> simp

theorem folded_rows_tabbed {items : List String} (nonempty : items ≠ []) :
    ∀ row ∈ foldedRows items, isTabbed row = true := by
  induction items with
  | nil => contradiction
  | cons item items induction =>
      cases items with
      | nil => simp [foldedRows, isTabbed]
      | cons next items =>
          intro row inside
          rcases List.mem_cons.1 inside with here | there
          · simp [here, isTabbed]
          · exact induction (by simp) row there

theorem folded_rows_cons_ne (item : String) (items : List String) :
    foldedRows (item :: items) ≠ foldedRows [] := by
  intro same
  have emptyRow : "" ∈ foldedRows (item :: items) := by simp [same, foldedRows]
  have rowTabbed := folded_rows_tabbed (List.cons_ne_nil item items) "" emptyRow
  contradiction

/-- The rows of a folded list tell its items, even if an item ends like a continued row. -/
theorem folded_rows_inj {left right : List String} :
    foldedRows left = foldedRows right ↔ left = right := by
  refine ⟨fun same => ?_, congrArg foldedRows⟩
  induction left generalizing right with
  | nil =>
      cases right with
      | nil => rfl
      | cons other others => exact absurd same.symm (folded_rows_cons_ne other others)
  | cons item items induction =>
      cases right with
      | nil => exact absurd same (folded_rows_cons_ne item items)
      | cons other others =>
          -- A list of one item has one row, so both lists end together.
          cases items with
          | nil =>
              cases others with
              | nil => simpa [foldedRows] using same
              | cons next others =>
                  exact absurd (List.cons.inj same).2.symm (folded_rows_ne_nil _)
          | cons following items =>
              cases others with
              | nil => exact absurd (List.cons.inj same).2 (folded_rows_ne_nil _)
              | cons next others =>
                  obtain ⟨first, rest⟩ := List.cons.inj same
                  rw [String.append_left_inj, String.append_right_inj] at first
                  rw [first, induction rest]

end MakePlan.Plan
