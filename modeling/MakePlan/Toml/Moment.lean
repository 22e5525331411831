/-!
# Dates and times

The date and time literals of TOML: a date, a time, or both with an optional offset. Days are
checked against their month, and a minute may have a leap second.
-/

namespace MakePlan.Toml

set_option autoImplicit false

structure Date where
  year : Nat
  month : Nat
  day : Nat
  deriving DecidableEq, Repr

structure Time where
  hour : Nat
  minute : Nat
  second : Nat
  nanosecond : Nat
  deriving DecidableEq, Repr

inductive Offset
  | universal
  | minutes (count : Int)
  deriving DecidableEq, Repr

inductive Moment
  | date (date : Date)
  | time (time : Time)
  | dateTime (date : Date) (time : Time) (offset : Option Offset)
  deriving DecidableEq, Repr

/-- The key under which a date or time stands when it is read as a table. -/
def Moment.key : String := "$__toml_private_datetime"

def decimalValue (digits : List Char) : Nat :=
  digits.foldl (fun value digit => 10 * value + (digit.toNat - '0'.toNat)) 0

def takeNumber? (width : Nat) (text : List Char) : Option (Nat × List Char) :=
  let digits := text.take width
  if digits.length = width ∧ digits.all Char.isDigit then
    some (decimalValue digits, text.drop width)
  else none

def dropChar? (expected : Char) : List Char → Option (List Char)
  | [] => none
  | c :: rest => if c = expected then some rest else none

def isLeapYear (year : Nat) : Bool := year % 4 = 0 && (year % 100 ≠ 0 || year % 400 = 0)

def daysInMonth (year month : Nat) : Nat :=
  if month = 2 then if isLeapYear year then 29 else 28
  else if month = 4 ∨ month = 6 ∨ month = 9 ∨ month = 11 then 30
  else 31

def takeDate? (text : List Char) : Option (Date × List Char) := do
  let (year, text) ← takeNumber? 4 text
  let (month, text) ← takeNumber? 2 (← dropChar? '-' text)
  let (day, text) ← takeNumber? 2 (← dropChar? '-' text)
  guard (1 ≤ month ∧ month ≤ 12 ∧ 1 ≤ day ∧ day ≤ daysInMonth year month)
  some (⟨year, month, day⟩, text)

/-- The fraction of a second in nanoseconds; digits past the ninth are cut off. -/
def takeFraction? (text : List Char) : Option (Nat × List Char) :=
  match text with
  | '.' :: rest =>
      let digits := rest.takeWhile Char.isDigit
      if digits.isEmpty then none
      else
        let nine := (digits ++ List.replicate 9 '0').take 9
        some (decimalValue nine, rest.dropWhile Char.isDigit)
  | _ => some (0, text)

/-- A time of day. The seconds may be left out and are zero then. -/
def takeTime? (text : List Char) : Option (Time × List Char) := do
  let (hour, text) ← takeNumber? 2 text
  let (minute, text) ← takeNumber? 2 (← dropChar? ':' text)
  guard (hour ≤ 23 ∧ minute ≤ 59)
  match text with
  | ':' :: rest =>
      let (second, text) ← takeNumber? 2 rest
      let (nanosecond, text) ← takeFraction? text
      guard (second ≤ 60)
      some (⟨hour, minute, second, nanosecond⟩, text)
  | _ => some (⟨hour, minute, 0, 0⟩, text)

def signedOffset? (negative : Bool) (text : List Char) : Option Offset := do
  let (hours, text) ← takeNumber? 2 text
  let (minutes, text) ← takeNumber? 2 (← dropChar? ':' text)
  guard (text.isEmpty ∧ hours ≤ 23 ∧ minutes ≤ 59)
  let count : Int := hours * 60 + minutes
  some (.minutes (if negative then -count else count))

def offset? : List Char → Option (Option Offset)
  | [] => some none
  | ['Z'] | ['z'] => some (some .universal)
  | '+' :: rest => (signedOffset? false rest).map some
  | '-' :: rest => (signedOffset? true rest).map some
  | _ => none

def Moment.ofText? (text : List Char) : Option Moment :=
  match takeDate? text with
  | some (day, []) => some (.date day)
  | some (day, separator :: rest) => do
      guard (separator = 'T' ∨ separator = 't' ∨ separator = ' ')
      let (clock, rest) ← takeTime? rest
      some (.dateTime day clock (← offset? rest))
  | none =>
      match takeTime? text with
      | some (clock, []) => some (.time clock)
      | _ => none

def zeroPadded (width value : Nat) : String :=
  let digits := Nat.toDigits 10 value
  String.ofList (List.replicate (width - digits.length) '0' ++ digits)

def Date.text (date : Date) : String :=
  zeroPadded 4 date.year ++ "-" ++ zeroPadded 2 date.month ++ "-" ++ zeroPadded 2 date.day

/-- The fraction is written without the zeros at its end, and not at all if it is zero. -/
def Time.text (time : Time) : String :=
  let fraction := ((zeroPadded 9 time.nanosecond).toList.reverse.dropWhile (· = '0')).reverse
  zeroPadded 2 time.hour ++ ":" ++ zeroPadded 2 time.minute ++ ":" ++ zeroPadded 2 time.second ++
    if fraction.isEmpty then "" else String.ofList ('.' :: fraction)

def Offset.text : Offset → String
  | .universal => "Z"
  | .minutes count =>
      let sign := if count < 0 then "-" else "+"
      sign ++ zeroPadded 2 (count.natAbs / 60) ++ ":" ++ zeroPadded 2 (count.natAbs % 60)

/-- The literal in its usual spelling, with `T` between date and time. -/
def Moment.text : Moment → String
  | .date day => day.text
  | .time clock => clock.text
  | .dateTime day clock offset => day.text ++ "T" ++ clock.text ++ (offset.map Offset.text).getD ""

end MakePlan.Toml
