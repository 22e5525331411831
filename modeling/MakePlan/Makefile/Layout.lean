import MakePlan.Plan
import MakePlan.Text.Lines

/-!
# The Makefile of a plan

A plan written out as a Makefile: assignments, the link rule, the cleaning rule, and then one rule
for each compilation unit.
-/

namespace MakePlan.Plan

set_option autoImplicit false

/-- The rows of a folded list, indented by tabs. All but the last are continued, and the empty list
has one empty row. -/
def foldedRows : List String → List String
  | [] => [""]
  | [last] => ["\t" ++ last]
  | item :: rest => ("\t" ++ item ++ "\t\\") :: foldedRows rest

def toolRows (plan : Plan) : List String :=
  [ "",
    "CC\t= " ++ plan.compiler,
    "CFLAGS\t= " ++ plan.cflags,
    "LDFLAGS\t= " ++ plan.ldflags ]

def goalRows (plan : Plan) : List String :=
  ["LDLIBS\t= " ++ plan.ldlibs, "", "DEPS\t=\t\t\\"] ++ foldedRows plan.deps ++
    ["", plan.target ++ ":\t\t\t\\"] ++ foldedRows (plan.units.map (·.object)) ++
    [ "\t$(CC) -o $@ $^ $(LDLIBS) $(LDFLAGS)",
      "",
      ".PHONY: clean",
      "clean:",
      "\t@ rm -fR " ++ plan.buildDir ]

def unitRows (unit : CompilationUnit) : List String :=
  [ "",
    unit.object ++ ": " ++ unit.source ++ " $(DEPS)",
    "\t@mkdir -p $(@D)",
    "\t$(CC) -c -o $@ $< $(CFLAGS)" ]

def rows (plan : Plan) : List String :=
  plan.toolRows ++ plan.goalRows ++ plan.units.flatMap unitRows

def render (plan : Plan) : String := Text.block plan.rows

end MakePlan.Plan
