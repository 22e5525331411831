import MakePlan.Toml.Token
import MakePlan.Toml.Value

/-!
# Unquoted literals

Booleans, integers, floats, dates and times, from the text that spells them. The spelling bounds no
number and lets a few texts pass whose digits have no value. What is too large for every width, and
such a text, becomes an unreadable number, which matters only to those who read it.
-/

namespace MakePlan.Toml

set_option autoImplicit false

/-- The digits of a run in which single underscores may stand between two digits. -/
def ungroup? (isDigit : Char → Bool) : List Char → Option (List Char)
  | [] => none
  | [c] => if isDigit c then some [c] else none
  | c :: next :: rest =>
      if isDigit c then
        if next = '_' then (ungroup? isDigit rest).map (c :: ·)
        else (ungroup? isDigit (next :: rest)).map (c :: ·)
      else none

def takeSign : List Char → Bool × List Char
  | '+' :: rest => (false, rest)
  | '-' :: rest => (true, rest)
  | text => (false, text)

def signed (negative : Bool) (magnitude : Nat) : Int :=
  if negative then Int.negOfNat magnitude else Int.ofNat magnitude

/-- The digits of a whole number without a sign. It begins with a zero only if that is all of it. -/
def wholeDigits? (text : List Char) : Option (List Char) := do
  let digits ← ungroup? Char.isDigit text
  guard (digits.head? ≠ some '0' ∨ digits.length = 1)
  some digits

/-- An integer can be read if it has 128 bits, with a sign or without one. -/
def Scalar.ofInt (value : Int) : Scalar :=
  if -Int.ofNat (Nat.pow 2 127) ≤ value ∧ value < Int.ofNat (Nat.pow 2 128) then .integer value
  else .unreadable .integer

/-- A whole number after a radix mark; here zeros may come first, and all digits may be missing. -/
def radixNumber? (radix : Nat) (text : List Char) : Option Scalar :=
  if text.isEmpty then some (.unreadable .integer)
  else do
    let digits ← ungroup? (fun c => (hexDigit? c).any (· < radix)) text
    let values ← digits.mapM hexDigit?
    some (.ofInt (Int.ofNat (values.foldl (fun value digit => radix * value + digit) 0)))

def isExponentMark (c : Char) : Bool := c = 'e' || c = 'E'

def groupsHexDigits : List Char → Bool
  | [] => true
  | [c] => c ≠ '_'
  | c :: next :: rest =>
      (c ≠ '_' || (hexDigit? next).isSome) && (next ≠ '_' || (hexDigit? c).isSome)
        && groupsHexDigits (next :: rest)

/-- Whether a text passes for a whole number because its first digits end at an underscore. What
follows may be anything without spaces that makes it no float and groups its digits. -/
def startsGrouped (text : List Char) : Bool :=
  text.head?.any (fun c => c.isDigit && c ≠ '0')
    && (text.dropWhile Char.isDigit).head? = some '_' && groupsHexDigits text
    && text.all fun c => c ≠ ' ' && c ≠ '.' && !isExponentMark c

def decimalInteger? (text : List Char) : Option Scalar :=
  let (negative, magnitude) := takeSign text
  match wholeDigits? magnitude with
  | some digits => some (.ofInt (signed negative (decimalValue digits)))
  | none => if startsGrouped magnitude then some (.unreadable .integer) else none

def integer? (text : List Char) : Option Scalar :=
  match text with
  | '0' :: 'x' :: rest => radixNumber? 16 rest
  | '0' :: 'o' :: rest => radixNumber? 8 rest
  | '0' :: 'b' :: rest => radixNumber? 2 rest
  | _ => decimalInteger? text

def exponent? : List Char → Option Int
  | [] => some 0
  | _ :: rest =>
      let (negative, magnitude) := takeSign rest
      (ungroup? Char.isDigit magnitude).map fun digits => signed negative (decimalValue digits)

def fraction? : List Char → Option (List Char)
  | [] => some []
  | _ :: rest => ungroup? Char.isDigit rest

def decimalFloat? (negative : Bool) (text : List Char) : Option Scalar := do
  let mantissa := text.takeWhile (!isExponentMark ·)
  let power ← exponent? (text.dropWhile (!isExponentMark ·))
  let whole ← wholeDigits? (mantissa.takeWhile (· ≠ '.'))
  let fraction ← fraction? (mantissa.dropWhile (· ≠ '.'))
  some
    (match Decimal.Binary64.ofDecimal negative (decimalValue (whole ++ fraction))
        (power - Int.ofNat fraction.length) with
    | .infinite _ => .unreadable .float
    | float => .float float)

def float? (text : List Char) : Option Scalar :=
  let (negative, magnitude) := takeSign text
  if magnitude = "inf".toList then some (.float (.infinite negative))
  else if magnitude = "nan".toList then some (.float .nan)
  else decimalFloat? negative magnitude

def Scalar.ofLiteral? (text : List Char) : Option Scalar :=
  if text = "true".toList then some (.boolean true)
  else if text = "false".toList then some (.boolean false)
  else
    integer? text <|> float? text <|> (Moment.ofText? text).map .moment

end MakePlan.Toml
