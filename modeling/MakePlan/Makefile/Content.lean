import MakePlan.Makefile.Basic
import MakePlan.Plan

/-!
# What a plan's Makefile says

The variables and rules that a plan asks for, without regard to how they are laid out.
-/

namespace MakePlan.Plan

set_option autoImplicit false

def spaced (text : String) : String := " ".intercalate (wordsOf text)

def toVariables (plan : Plan) : List Variable :=
  [ ⟨"CC", spaced plan.compiler⟩,
    ⟨"CFLAGS", spaced plan.cflags⟩,
    ⟨"LDFLAGS", spaced plan.ldflags⟩,
    ⟨"LDLIBS", spaced plan.ldlibs⟩,
    ⟨"DEPS", " ".intercalate plan.deps⟩ ]

def linkRule (plan : Plan) : Rule where
  targets := [plan.target]
  prerequisites := plan.units.map (·.object)
  recipe := ["$(CC) -o $@ $^ $(LDLIBS) $(LDFLAGS)"]

def phonyRule : Rule where
  targets := [".PHONY"]
  prerequisites := ["clean"]
  recipe := []

/-- Cleaning removes the build directory; the current directory is not removed. -/
def cleanRule (plan : Plan) : Rule where
  targets := ["clean"]
  prerequisites := []
  recipe := ["@ rm -fR" ++ if plan.buildDir = "" then "" else " " ++ plan.buildDir]

def compileRule (unit : CompilationUnit) : Rule where
  targets := [unit.object]
  prerequisites := [unit.source, "$(DEPS)"]
  recipe := ["@mkdir -p $(@D)", "$(CC) -c -o $@ $< $(CFLAGS)"]

def toMakefile (plan : Plan) : Makefile where
  assignments := plan.toVariables
  rules := [plan.linkRule, phonyRule, plan.cleanRule] ++ plan.units.map compileRule

end MakePlan.Plan
