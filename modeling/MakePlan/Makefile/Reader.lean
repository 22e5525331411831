import MakePlan.Makefile.Basic
import MakePlan.Text.Lines

/-!
# Reading a Makefile

Physical lines are joined where a backslash continues them. Each logical line is then a recipe
command, an assignment, a rule or nothing, and a command belongs to the last rule before it.
-/

namespace MakePlan

set_option autoImplicit false

open Text

/-- A line is continued by the next one when it ends in a backslash, blanks aside. -/
def isContinued (row : List Char) : Bool := (trimEnd row).getLast? = some '\\'

/-- What a physical line contributes to its logical line. -/
def body (row : List Char) : List Char :=
  if isContinued row then (trimEnd row).dropLast else trimEnd row

def prepend (row : List Char) : List (List Char) → List (List Char)
  | [] => [body row ++ [' ']]
  | first :: others => (body row ++ ' ' :: first) :: others

/-- Joins each continued line to the next with a space. -/
def logicalLines : List (List Char) → List (List Char)
  | [] => []
  | row :: rest =>
      if isContinued row then prepend row (logicalLines rest) else body row :: logicalLines rest

inductive Statement
  | assignment (assigned : Variable)
  | rule (targets prerequisites : List String)
  | command (text : String)
  | nothing
  deriving DecidableEq, Repr

namespace Statement

def isNameChar (c : Char) : Bool := c.isAlphanum || c = '_' || c = '.' || c = '-'

/-- What follows an assignment operator: an equals sign, after `:`, `+`, `?` or nothing. -/
def afterOperator? : List Char → Option (List Char)
  | [] => none
  | '=' :: value => some value
  | c :: rest =>
      if c = ':' ∨ c = '+' ∨ c = '?' then
        match rest with
        | '=' :: value => some value
        | _ => none
      else none

def assignment? (line : List Char) : Option Variable :=
  let name := line.takeWhile isNameChar
  if name = [] then none
  else
    (afterOperator? ((line.dropWhile isNameChar).dropWhile isBlank)).map fun value =>
      { name := String.ofList name, value := String.ofList (unwords (words value)) }

def isRuleMark (c : Char) : Bool := c = ':' || c = '='

/-- Reads a line as targets, a colon and prerequisites. The first colon or equals sign must be a
colon, and an equals sign may not follow it. -/
def rule? (line : List Char) : Option (List String × List String) :=
  let targets := line.takeWhile (!isRuleMark ·)
  match line.dropWhile (!isRuleMark ·) with
  | ':' :: prerequisites =>
      if targets = [] ∨ prerequisites.head? = some '=' then none
      else some ((words targets).map String.ofList, (words prerequisites).map String.ofList)
  | _ => none

def ofPlainLine (line : List Char) : Statement :=
  if line = [] ∨ line.head? = some '#' then .nothing
  else
    match assignment? line with
    | some assigned => .assignment assigned
    | none =>
        match rule? line with
        | some (targets, prerequisites) => .rule targets prerequisites
        | none => .nothing

def ofRecipeLine (line : List Char) : Statement :=
  if line = [] then .nothing else .command (String.ofList line)

def ofLine (line : List Char) : Statement :=
  match line with
  | '\t' :: rest => ofRecipeLine (trim rest)
  | _ => ofPlainLine (trim line)

end Statement

/-- A part of a Makefile: the commands that belong to a rule before the part, and the rest. -/
structure Fragment where
  commands : List String := []
  makefile : Makefile := {}
  deriving DecidableEq, Repr

namespace Fragment

def prepend (statement : Statement) (fragment : Fragment) : Fragment :=
  let { commands, makefile } := fragment
  match statement with
  | .assignment assigned =>
      { commands, makefile := { makefile with assignments := assigned :: makefile.assignments } }
  | .rule targets prerequisites =>
      let rule : Rule := { targets, prerequisites, recipe := commands }
      { commands := [], makefile := { makefile with rules := rule :: makefile.rules } }
  | .command text => { commands := text :: commands, makefile }
  | .nothing => { commands, makefile }

def ofStatements (statements : List Statement) : Fragment := statements.foldr prepend {}

end Fragment

namespace Makefile

def statements (text : List Char) : List Statement :=
  (logicalLines (lines text)).map Statement.ofLine

/-- Reads a Makefile. Commands before the first rule belong to nothing and are dropped. -/
def read (text : String) : Makefile :=
  (Fragment.ofStatements (statements text.toList)).makefile

end Makefile

end MakePlan
