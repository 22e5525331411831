import MakePlan.Text.Lines

/-!
# Log records

What a run says about its progress. Control characters that a terminal would obey are written as
escapes.
-/

namespace MakePlan

set_option autoImplicit false

inductive Level
  | debug
  | info
  | warn
  | error
  deriving DecidableEq, Repr

def Level.name : Level → String
  | .debug => "DEBUG"
  | .info => "INFO"
  | .warn => "WARN"
  | .error => "ERROR"

structure Record where
  level : Level
  /-- The part of the program that speaks. -/
  origin : String
  text : String
  deriving DecidableEq, Repr

namespace Record

def escapedControl (c : Char) : List Char :=
  let code := c.toNat
  if code = 0x07 then "\\x07".toList
  else if code = 0x08 then "\\x08".toList
  else if code = 0x0C then "\\x0c".toList
  else if code = 0x1B then "\\x1b".toList
  else if code = 0x7F then "\\x7f".toList
  else if 0x80 ≤ code ∧ code ≤ 0x9F then
    ['\\', 'u', '\x7b'] ++ Nat.toDigits 16 code ++ ['\x7d']
  else [c]

def line (record : Record) : String :=
  record.level.name ++ " " ++ record.origin ++ ": " ++
    String.ofList (record.text.toList.flatMap escapedControl) ++ "\n"

end Record

end MakePlan
