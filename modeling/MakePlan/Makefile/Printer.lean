import MakePlan.Makefile.Basic
import MakePlan.Text.Lines

/-!
# Printing a Makefile

The plain layout: every item on rows of its own, single spaces between words, and a tab before each
command of a recipe.
-/

namespace MakePlan

set_option autoImplicit false

def Rule.heading (rule : Rule) : String :=
  " ".intercalate rule.targets ++ ":" ++ String.join (rule.prerequisites.map (" " ++ ·))

namespace Makefile

inductive Item
  | assignment (assigned : Variable)
  | rule (stated : Rule)
  deriving DecidableEq, Repr

namespace Item

def rows : Item → List String
  | .assignment assigned => [assigned.name ++ " = " ++ assigned.value]
  | .rule stated => stated.heading :: stated.recipe.map ("\t" ++ ·)

def assignment? : Item → Option Variable
  | .assignment assigned => some assigned
  | .rule _ => none

def rule? : Item → Option Rule
  | .assignment _ => none
  | .rule stated => some stated

end Item

def ofItems (items : List Item) : Makefile where
  assignments := items.filterMap Item.assignment?
  rules := items.filterMap Item.rule?

def print (items : List Item) : String := Text.block (items.flatMap Item.rows)

@[simp] theorem of_items_append (front rest : List Item) :
    ofItems (front ++ rest) =
      { assignments := (ofItems front).assignments ++ (ofItems rest).assignments
        rules := (ofItems front).rules ++ (ofItems rest).rules } := by
  simp [ofItems]

end Makefile

end MakePlan
