import MakePlan.Makefile.Content
import MakePlan.Makefile.Layout
import MakePlan.Proofs.Makefile.Lines

/-!
# Legible plans

What the texts of a plan have to be for its Makefile to be read back as it was meant: flags stay on
their line, paths are single words, and goals hold no mark of a rule.
-/

namespace MakePlan

set_option autoImplicit false

open Text

/-- No blank and no backslash, so that nothing in the text ends a word or continues a line. -/
def Unbroken (text : String) : Prop := ∀ c ∈ text.toList, isBlank c = false ∧ c ≠ '\\'

/-- A single word without backslashes. -/
def PlainWord (text : String) : Prop := text ≠ "" ∧ Unbroken text

/-- One line, whose last visible character, if it has any, is not a backslash. -/
def ClosedLine (text : String) : Prop :=
  '\n' ∉ text.toList ∧ (text.toList.filter (!isBlank ·)).getLast? ≠ some '\\'

def PlainGoal (text : String) : Prop :=
  PlainWord text ∧ ':' ∉ text.toList ∧ '=' ∉ text.toList ∧ text.toList.head? ≠ some '#'

instance (text : String) : Decidable (Unbroken text) := List.decidableBAll _ text.toList

instance (text : String) : Decidable (PlainWord text) := inferInstanceAs (Decidable (_ ∧ _))

instance (text : String) : Decidable (ClosedLine text) := inferInstanceAs (Decidable (_ ∧ _))

instance (text : String) : Decidable (PlainGoal text) := inferInstanceAs (Decidable (_ ∧ _))

/-- The plans whose Makefile says what they mean. -/
structure Plan.Legible (plan : Plan) : Prop where
  compiler : ClosedLine plan.compiler
  cflags : ClosedLine plan.cflags
  ldflags : ClosedLine plan.ldflags
  ldlibs : ClosedLine plan.ldlibs
  deps : ∀ dep ∈ plan.deps, PlainWord dep
  objects : ∀ unit ∈ plan.units, PlainGoal unit.object
  sources : ∀ unit ∈ plan.units, PlainWord unit.source
  target : PlainGoal plan.target
  buildDir : Unbroken plan.buildDir

theorem Unbroken.append {left right : String} (leftUnbroken : Unbroken left)
    (rightUnbroken : Unbroken right) : Unbroken (left ++ right) := by
  intro c inside
  rw [String.toList_append, List.mem_append] at inside
  exact inside.elim (leftUnbroken c) (rightUnbroken c)

theorem Unbroken.no_newline {text : String} (unbroken : Unbroken text) : '\n' ∉ text.toList :=
  no_newline_of_ink fun c inside => (unbroken c inside).1

theorem Unbroken.no_backslash {text : String} (unbroken : Unbroken text) : '\\' ∉ text.toList :=
  fun inside => (unbroken '\\' inside).2 rfl

theorem Unbroken.is_continued {text : String} (unbroken : Unbroken text) :
    isContinued text.toList = false :=
  is_continued_of_no_backslash unbroken.no_backslash

theorem ClosedLine.is_continued {text : String} (closed : ClosedLine text) :
    isContinued text.toList = false :=
  is_continued_eq_false_iff.2 closed.2

theorem PlainWord.is_word {text : String} (word : PlainWord text) : IsWord text.toList := by
  refine ⟨?_, fun c inside => (word.2 c inside).1⟩
  intro empty
  exact word.1 (String.toList_eq_nil_iff.1 empty)

theorem PlainGoal.unmarked {text : String} (goal : PlainGoal text) :
    ∀ c ∈ text.toList, Statement.isRuleMark c = false :=
  Statement.unmarked_of_not_mem goal.2.1 goal.2.2.1

end MakePlan
