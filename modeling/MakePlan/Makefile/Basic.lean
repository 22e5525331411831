import MakePlan.Text.Words

/-!
# Makefiles

The content of a Makefile as a model: variables, and rules with their recipes, in the order of the
file.
-/

namespace MakePlan

set_option autoImplicit false

/-- An assignment; its value holds the words of the line with single spaces between them. -/
structure Variable where
  name : String
  value : String
  deriving DecidableEq, Repr

structure Rule where
  targets : List String
  prerequisites : List String
  recipe : List String
  deriving DecidableEq, Repr

structure Makefile where
  assignments : List Variable := []
  rules : List Rule := []
  deriving DecidableEq, Repr

def wordsOf (text : String) : List String := (Text.words text.toList).map String.ofList

namespace Makefile

def valueOf? (makefile : Makefile) (name : String) : Option String :=
  (makefile.assignments.reverse.find? (·.name = name)).map (·.value)

def variableWords (makefile : Makefile) (name : String) : List String :=
  ((makefile.valueOf? name).map wordsOf).getD []

def rule? (makefile : Makefile) (target : String) : Option Rule :=
  makefile.rules.find? (target ∈ ·.targets)

def phony (makefile : Makefile) : List String :=
  (makefile.rules.filter (".PHONY" ∈ ·.targets)).flatMap (·.prerequisites)

end Makefile

end MakePlan
