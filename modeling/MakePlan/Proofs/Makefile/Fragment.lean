import MakePlan.Makefile.Reader
import Mathlib.Data.List.ModifyLast

/-!
# Parts of a Makefile put together

A part waits for what stands before it in one respect only: its first commands belong to a rule that
it does not hold. Two parts are joined by handing these commands to the last rule of the first.
-/

namespace MakePlan

set_option autoImplicit false

def Rule.extended (rule : Rule) (commands : List String) : Rule :=
  { rule with recipe := rule.recipe ++ commands }

@[simp] theorem Rule.extended_nil (rule : Rule) : rule.extended [] = rule := by
  simp [extended]

theorem modify_last_nil {α : Type} (f : α → α) : [].modifyLast f = [] := rfl

theorem modify_last_singleton {α : Type} (f : α → α) (only : α) :
    [only].modifyLast f = [f only] := List.modifyLast_concat f only []

theorem modify_last_cons {α : Type} (f : α → α) (first : α) {others : List α}
    (nonempty : others ≠ []) : (first :: others).modifyLast f = first :: others.modifyLast f :=
  List.modifyLast_append_of_right_ne_nil f [first] others nonempty

namespace Statement

def isRule : Statement → Bool
  | .rule _ _ => true
  | _ => false

def command? : Statement → Option String
  | .command text => some text
  | _ => none

end Statement

namespace Fragment

/-- The fragment of two parts, one after the other. Without a rule in the first part the commands of
both go on waiting. -/
def join (front rest : Fragment) : Fragment where
  commands := front.commands ++ if front.makefile.rules = [] then rest.commands else []
  makefile :=
    { assignments := front.makefile.assignments ++ rest.makefile.assignments
      rules :=
        front.makefile.rules.modifyLast (·.extended rest.commands) ++ rest.makefile.rules }

@[simp] theorem of_statements_cons (statement : Statement) (others : List Statement) :
    ofStatements (statement :: others) = (ofStatements others).prepend statement := rfl

/-- A statement in front of the first of two parts stands in front of both. -/
theorem prepend_join (statement : Statement) (front rest : Fragment) :
    (front.prepend statement).join rest = (front.join rest).prepend statement := by
  cases statement with
  | assignment assigned => rfl
  | command text => rfl
  | nothing => rfl
  | rule targets prerequisites =>
      -- The new rule takes the commands that wait; it is the last one if there was none before.
      by_cases noRule : front.makefile.rules = []
      · simp [prepend, join, noRule, modify_last_nil, modify_last_singleton, Rule.extended]
      · simp [prepend, join, noRule, modify_last_cons]

theorem join_of_no_commands (front : Fragment) {rest : Fragment} (settled : rest.commands = []) :
    front.join rest =
      { commands := front.commands
        makefile :=
          { assignments := front.makefile.assignments ++ rest.makefile.assignments
            rules := front.makefile.rules ++ rest.makefile.rules } } := by
  have kept : front.makefile.rules.modifyLast (·.extended []) = front.makefile.rules := by
    cases List.eq_nil_or_concat front.makefile.rules with
    | inl noRule => rw [noRule, modify_last_nil]
    | inr someRule =>
        obtain ⟨earlier, last, rulesEq⟩ := someRule
        rw [rulesEq, List.concat_eq_append, List.modifyLast_concat, Rule.extended_nil]
  simp only [join, settled, ite_self, List.append_nil, kept]

theorem of_statements_append (front rest : List Statement) :
    ofStatements (front ++ rest) = (ofStatements front).join (ofStatements rest) := by
  induction front with
  | nil => rfl
  | cons statement front induction =>
      rw [List.cons_append, of_statements_cons, of_statements_cons, induction, prepend_join]

/-- The commands up to the first rule wait, and those after it stand in the recipes, so that none is
lost and none is taken twice. -/
theorem commands_of_statements (statements : List Statement) :
    (ofStatements statements).commands =
        (statements.takeWhile (!·.isRule)).filterMap Statement.command? ∧
      (ofStatements statements).makefile.rules.flatMap (·.recipe) =
        (statements.dropWhile (!·.isRule)).filterMap Statement.command? := by
  induction statements with
  | nil => exact ⟨rfl, rfl⟩
  | cons statement statements induction =>
      obtain ⟨waiting, taken⟩ := induction
      rw [of_statements_cons]
      cases statement with
      | assignment assigned => exact ⟨waiting, taken⟩
      | nothing => exact ⟨waiting, taken⟩
      | command text => exact ⟨congrArg (text :: ·) waiting, taken⟩
      | rule targets prerequisites =>
          refine ⟨rfl, ?_⟩
          have allCommands : statements.filterMap Statement.command? =
              (ofStatements statements).commands ++
                (ofStatements statements).makefile.rules.flatMap (·.recipe) := by
            rw [waiting, taken, ← List.filterMap_append, List.takeWhile_append_dropWhile]
          exact allCommands.symm

end Fragment

end MakePlan
