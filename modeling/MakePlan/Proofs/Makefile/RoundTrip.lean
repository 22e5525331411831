import MakePlan.Proofs.Makefile.Legible
import MakePlan.Proofs.Makefile.Rows

/-!
# A plan is read back from its Makefile

The rows of a plan are read one after the other: closed rows by themselves, folded lists as the
words of one line. What they say makes up the content that the plan asks for.
-/

namespace MakePlan

set_option autoImplicit false

open Text

namespace Plan

theorem spaced_eq (text : String) : spaced text = String.ofList (unwords (words text.toList)) :=
  intercalate_of_list _

/-- Folding a list does not change its words, and closes it. -/
theorem logical_lines_folded_rows {items : List String} (plain : ∀ item ∈ items, PlainWord item)
    (rest : List (List Char)) :
    ∃ line, words line = items.map String.toList ∧
      logicalLines ((foldedRows items).map String.toList ++ rest) = line :: logicalLines rest := by
  -- Every row but the last is joined in front of the one line that the rows after it make.
  induction items with
  | nil => exact ⟨[], rfl, logical_lines_cons_closed rfl rest⟩
  | cons item items induction =>
      have itemPlain := plain item (by simp)
      have itemWords : words ('\t' :: item.toList) = [item.toList] := by
        rw [words_cons_blank is_blank_tab, words_of_is_word itemPlain.is_word]
      cases items with
      | nil =>
          have closed : isContinued ("\t" ++ item).toList = false := by
            rw [String.toList_append]
            exact is_continued_append rfl itemPlain.2.is_continued
          refine ⟨trimEnd ("\t" ++ item).toList, ?_, logical_lines_cons_closed closed rest⟩
          rw [words_trim_end, String.toList_append]
          exact itemWords
      | cons next items =>
          obtain ⟨line, lineWords, folded⟩ :=
            induction fun other inside => plain other (List.mem_cons_of_mem _ inside)
          have rowEq : ("\t" ++ item ++ "\t\\").toList =
              ('\t' :: item.toList ++ ['\t']) ++ ['\\'] := by
            simp
          refine ⟨'\t' :: item.toList ++ ['\t'] ++ ' ' :: line, ?_, ?_⟩
          · rw [words_append_blank is_blank_space, words_append_blank is_blank_tab, itemWords,
              lineWords]
            rfl
          · change logicalLines (("\t" ++ item ++ "\t\\").toList :: _) = _
            rw [rowEq]
            exact logical_lines_cons_backslash folded

theorem of_rows_folded {items : List String} (plain : ∀ item ∈ items, PlainWord item)
    (front : List Char) (rest : List (List Char)) :
    ∃ line, words line = items.map String.toList ∧
      Statement.ofRows ((front ++ ['\\']) :: ((foldedRows items).map String.toList ++ rest)) =
        Statement.ofLine (front ++ ' ' :: line) :: Statement.ofRows rest := by
  obtain ⟨line, lineWords, folded⟩ := logical_lines_folded_rows plain rest
  refine ⟨line, lineWords, ?_⟩
  rw [Statement.ofRows, logical_lines_cons_backslash folded]
  rfl

/-- The row of a variable says its value, and the next row begins anew. -/
theorem of_rows_variable (name label : String) {value : String} (named : name ≠ "")
    (allNameChars : name.toList.all Statement.isNameChar = true)
    (labelled : label = name ++ "\t= ") (closed : ClosedLine value) (rest : List (List Char)) :
    Statement.ofRows ((label ++ value).toList :: rest) =
      .assignment ⟨name, spaced value⟩ :: Statement.ofRows rest := by
  have nameNonempty : name.toList ≠ [] := fun empty => named (String.toList_eq_nil_iff.1 empty)
  have nameChars := List.all_eq_true.1 allNameChars
  have tabBlank : AllBlank ['\t'] := by simp [AllBlank]
  have labelPlain : '\\' ∉ label.toList := by
    intro inside
    rw [labelled, String.toList_append, List.mem_append] at inside
    rcases inside with inName | inOperator
    · exact absurd (nameChars _ inName) (by decide)
    · exact absurd inOperator (by decide)
  have rowClosed : isContinued (label ++ value).toList = false := by
    rw [String.toList_append]
    exact is_continued_append (is_continued_of_no_backslash labelPlain) closed.is_continued
  have rowEq : (label ++ value).toList =
      name.toList ++ (['\t'] ++ '=' :: (' ' :: value.toList)) := by
    simp [labelled]
  rw [of_rows_cons_closed rowClosed, rowEq,
    Statement.of_line_assignment nameNonempty nameChars tabBlank, words_cons_blank is_blank_space,
    String.ofList_toList, spaced_eq]

theorem of_line_goal {goal : String} (plain : PlainGoal goal) {prerequisites : List Char}
    (noEquals : prerequisites.head? ≠ some '=') :
    Statement.ofLine (goal.toList ++ ':' :: prerequisites) =
      .rule [goal] ((words prerequisites).map String.ofList) := by
  have isWord := plain.1.is_word
  obtain ⟨first, begins, ink⟩ := exists_first_of_is_word isWord
  have noComment : first ≠ '#' := by
    intro same
    rw [same] at begins
    exact plain.2.2.2 begins
  rw [Statement.of_line_rule begins ink noComment plain.unmarked noEquals, words_of_is_word isWord]
  simp

theorem of_rows_deps {deps : List String} (plain : ∀ dep ∈ deps, PlainWord dep)
    (rest : List (List Char)) :
    Statement.ofRows ("DEPS\t=\t\t\\".toList :: ((foldedRows deps).map String.toList ++ rest)) =
      .assignment ⟨"DEPS", " ".intercalate deps⟩ :: Statement.ofRows rest := by
  obtain ⟨line, lineWords, folded⟩ := of_rows_folded plain "DEPS\t=\t\t".toList rest
  have opening : "DEPS\t=\t\t\\".toList = "DEPS\t=\t\t".toList ++ ['\\'] := rfl
  have rowEq : "DEPS\t=\t\t".toList ++ ' ' :: line =
      "DEPS".toList ++ (['\t'] ++ '=' :: ('\t' :: '\t' :: ' ' :: line)) := rfl
  have valueWords : words ('\t' :: '\t' :: ' ' :: line) = deps.map String.toList := by
    rw [words_cons_blank is_blank_tab, words_cons_blank is_blank_tab,
      words_cons_blank is_blank_space, lineWords]
  have valueEq : " ".intercalate deps = String.ofList (unwords (deps.map String.toList)) := by
    rw [← intercalate_of_list, List.map_map]
    simp
  rw [opening, folded, rowEq,
    Statement.of_line_assignment (by decide) (List.all_eq_true.1 (by decide)) (by simp [AllBlank]),
    valueWords, valueEq]
  rfl

theorem of_rows_link {target : String} (goal : PlainGoal target) {objects : List String}
    (plain : ∀ object ∈ objects, PlainWord object) (rest : List (List Char)) :
    Statement.ofRows
        ((target ++ ":\t\t\t\\").toList :: ((foldedRows objects).map String.toList ++ rest)) =
      .rule [target] objects :: Statement.ofRows rest := by
  obtain ⟨line, lineWords, folded⟩ := of_rows_folded plain (target.toList ++ ":\t\t\t".toList) rest
  have opening : (target ++ ":\t\t\t\\").toList =
      (target.toList ++ ":\t\t\t".toList) ++ ['\\'] := by
    simp
  have rowEq : target.toList ++ ":\t\t\t".toList ++ ' ' :: line =
      target.toList ++ ':' :: ('\t' :: '\t' :: '\t' :: ' ' :: line) := by
    simp
  have headingWords : words ('\t' :: '\t' :: '\t' :: ' ' :: line) = objects.map String.toList := by
    rw [words_cons_blank is_blank_tab, words_cons_blank is_blank_tab, words_cons_blank is_blank_tab,
      words_cons_blank is_blank_space, lineWords]
  rw [opening, folded, rowEq, of_line_goal goal (by simp), headingWords, List.map_map]
  simp

/-- What cleaning a directory is as a command; the empty directory leaves no blank behind. -/
theorem of_line_clean {directory : String} (unbroken : Unbroken directory) :
    Statement.ofLine ("\t@ rm -fR " ++ directory).toList =
      .command ("@ rm -fR" ++ if directory = "" then "" else " " ++ directory) := by
  by_cases empty : directory = ""
  · subst empty
    decide
  · have noBlank : ∀ c ∈ directory.toList, isBlank c = false :=
      fun c inside => (unbroken c inside).1
    cases letters : directory.toList with
    | nil => exact absurd (String.toList_eq_nil_iff.1 letters) empty
    | cons first others =>
        rw [letters] at noBlank
        have kept : trimEnd (" rm -fR ".toList ++ first :: others) =
            " rm -fR ".toList ++ first :: others := by
          rw [trim_end_append_ink (noBlank first (by simp)),
            trim_end_of_no_blank fun c inside => noBlank c (by simp [inside])]
        have rowEq : ("\t@ rm -fR " ++ directory).toList =
            '\t' :: '@' :: (" rm -fR ".toList ++ first :: others) := by
          rw [String.toList_append, letters]
          rfl
        rw [rowEq, Statement.of_line_tab, trim_cons_of_ink (by decide), kept, ← letters,
          if_neg empty]
        have commandEq : String.ofList ('@' :: (" rm -fR ".toList ++ directory.toList)) =
            "@ rm -fR" ++ (" " ++ directory) := by
          apply String.toList_inj.1
          simp
        rw [Statement.ofRecipeLine, if_neg (by simp), commandEq]

def unitStatements (unit : CompilationUnit) : List Statement :=
  [ .nothing,
    .rule [unit.object] [unit.source, "$(DEPS)"],
    .command "@mkdir -p $(@D)",
    .command "$(CC) -c -o $@ $< $(CFLAGS)" ]

def toolStatements (plan : Plan) : List Statement :=
  [ .nothing,
    .assignment ⟨"CC", spaced plan.compiler⟩,
    .assignment ⟨"CFLAGS", spaced plan.cflags⟩,
    .assignment ⟨"LDFLAGS", spaced plan.ldflags⟩ ]

def goalStatements (plan : Plan) : List Statement :=
  [ .assignment ⟨"LDLIBS", spaced plan.ldlibs⟩,
    .nothing,
    .assignment ⟨"DEPS", " ".intercalate plan.deps⟩,
    .nothing,
    .rule [plan.target] (plan.units.map (·.object)),
    .command "$(CC) -o $@ $^ $(LDLIBS) $(LDFLAGS)",
    .nothing,
    .rule [".PHONY"] ["clean"],
    .rule ["clean"] [],
    .command ("@ rm -fR" ++ if plan.buildDir = "" then "" else " " ++ plan.buildDir) ]

def statements (plan : Plan) : List Statement :=
  plan.toolStatements ++ plan.goalStatements ++ plan.units.flatMap unitStatements

theorem of_rows_tool_rows {plan : Plan} (legible : plan.Legible) (rest : List (List Char)) :
    Statement.ofRows (plan.toolRows.map String.toList ++ rest) =
      plan.toolStatements ++ Statement.ofRows rest := by
  simp only [toolRows, List.map_cons, List.map_nil, List.cons_append, List.nil_append]
  rw [of_rows_cons_closed rfl,
    of_rows_variable "CC" "CC\t= " (by decide) (by decide) rfl legible.compiler,
    of_rows_variable "CFLAGS" "CFLAGS\t= " (by decide) (by decide) rfl legible.cflags,
    of_rows_variable "LDFLAGS" "LDFLAGS\t= " (by decide) (by decide) rfl legible.ldflags]
  rfl

theorem of_rows_goal_rows {plan : Plan} (legible : plan.Legible) (rest : List (List Char)) :
    Statement.ofRows (plan.goalRows.map String.toList ++ rest) =
      plan.goalStatements ++ Statement.ofRows rest := by
  have objectsPlain : ∀ object ∈ plan.units.map (·.object), PlainWord object := by
    intro object inside
    obtain ⟨unit, unitInside, rfl⟩ := List.mem_map.1 inside
    exact (legible.objects unit unitInside).1
  have cleanClosed : isContinued ("\t@ rm -fR " ++ plan.buildDir).toList = false := by
    rw [String.toList_append]
    exact is_continued_append (by decide) legible.buildDir.is_continued
  simp only [goalRows, List.map_append, List.map_cons, List.map_nil, List.cons_append,
    List.nil_append, List.append_assoc]
  -- One step for each logical line, from the libraries down to the command that cleans.
  rw [of_rows_variable "LDLIBS" "LDLIBS\t= " (by decide) (by decide) rfl legible.ldlibs,
    of_rows_cons_closed rfl, of_rows_deps legible.deps, of_rows_cons_closed rfl,
    of_rows_link legible.target objectsPlain, of_rows_cons_closed (by decide),
    of_rows_cons_closed rfl, of_rows_cons_closed (by decide), of_rows_cons_closed (by decide),
    of_rows_cons_closed cleanClosed, of_line_clean legible.buildDir]
  rfl

theorem of_rows_unit_rows {unit : CompilationUnit} (object : PlainGoal unit.object)
    (source : PlainWord unit.source) (rest : List (List Char)) :
    Statement.ofRows ((unitRows unit).map String.toList ++ rest) =
      unitStatements unit ++ Statement.ofRows rest := by
  have headingEq : (unit.object ++ ": " ++ unit.source ++ " $(DEPS)").toList =
      unit.object.toList ++ ':' :: (' ' :: (unit.source.toList ++ ' ' :: "$(DEPS)".toList)) := by
    simp
  have headingClosed :
      isContinued (unit.object ++ ": " ++ unit.source ++ " $(DEPS)").toList = false := by
    simp only [String.toList_append]
    exact is_continued_append (is_continued_append (is_continued_append object.1.2.is_continued
      (by decide)) source.2.is_continued) (by decide)
  have headingWords : words (' ' :: (unit.source.toList ++ ' ' :: "$(DEPS)".toList)) =
      [unit.source.toList, "$(DEPS)".toList] := by
    rw [words_cons_blank is_blank_space, words_append_blank is_blank_space,
      words_of_is_word source.is_word]
    rfl
  simp only [unitRows, List.map_cons, List.map_nil, List.cons_append, List.nil_append]
  rw [of_rows_cons_closed rfl, of_rows_cons_closed headingClosed, of_rows_cons_closed (by decide),
    of_rows_cons_closed (by decide), headingEq, of_line_goal object (by simp), headingWords]
  simp only [List.map_cons, List.map_nil, String.ofList_toList]
  rfl

theorem of_rows_units {units : List CompilationUnit}
    (objects : ∀ unit ∈ units, PlainGoal unit.object)
    (sources : ∀ unit ∈ units, PlainWord unit.source) :
    Statement.ofRows ((units.flatMap unitRows).map String.toList) =
      units.flatMap unitStatements := by
  induction units with
  | nil => rfl
  | cons unit units induction =>
      rw [List.flatMap_cons, List.map_append,
        of_rows_unit_rows (objects unit (by simp)) (sources unit (by simp)),
        induction (fun other inside => objects other (by simp [inside]))
          (fun other inside => sources other (by simp [inside]))]
      rfl

theorem Legible.one_line {plan : Plan} (legible : plan.Legible) : plan.OneLine where
  compiler := legible.compiler.1
  cflags := legible.cflags.1
  ldflags := legible.ldflags.1
  ldlibs := legible.ldlibs.1
  deps dep inside := (legible.deps dep inside).2.no_newline
  objects unit inside := (legible.objects unit inside).1.2.no_newline
  sources unit inside := (legible.sources unit inside).2.no_newline
  target := legible.target.1.2.no_newline
  buildDir := legible.buildDir.no_newline

/-- The text of a legible plan says its statements and nothing else. -/
theorem statements_render {plan : Plan} (legible : plan.Legible) :
    Makefile.statements plan.render.toList = plan.statements := by
  change Statement.ofRows (lines plan.render.toList) = plan.statements
  rw [lines_render legible.one_line, rows, List.map_append, List.map_append, List.append_assoc,
    of_rows_tool_rows legible, of_rows_goal_rows legible,
    of_rows_units legible.objects legible.sources, statements, List.append_assoc]

theorem of_statements_units (units : List CompilationUnit) :
    Fragment.ofStatements (units.flatMap unitStatements) =
      { makefile := { rules := units.map compileRule } } := by
  induction units with
  | nil => rfl
  | cons unit units induction =>
      rw [Fragment.ofStatements] at induction ⊢
      rw [List.flatMap_cons, List.foldr_append, induction]
      rfl

/-- Every command finds its rule, and the content is the one that the plan asks for. -/
theorem makefile_statements (plan : Plan) :
    (Fragment.ofStatements plan.statements).makefile = plan.toMakefile := by
  have units := of_statements_units plan.units
  rw [Fragment.ofStatements] at units ⊢
  rw [statements, List.foldr_append, units]
  rfl

/-- Reading the Makefile of a legible plan gives the content that the plan asks for: its variables
with their words a single space apart, and its rules in order, each with its own recipe. -/
theorem read_render {plan : Plan} (legible : plan.Legible) :
    Makefile.read plan.render = plan.toMakefile := by
  rw [Makefile.read, statements_render legible, makefile_statements]

/-- Irregular blanks, a comment sign in a path, no dependencies and no build directory. -/
def irregular : Plan where
  compiler := " cc\t-m32 "
  cflags := ""
  ldflags := "= :\t\\ x"
  ldlibs := "\t"
  deps := []
  units := [⟨"a+b.o", "=:#x"⟩, ⟨"c.o", "-"⟩]
  target := "+?"
  buildDir := ""

theorem read_render_irregular :
    irregular.Legible ∧ Makefile.read irregular.render = irregular.toMakefile := by
  have legible : irregular.Legible := by
    constructor <;> decide
  exact ⟨legible, read_render legible⟩

end Plan

end MakePlan
