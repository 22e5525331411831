import MakePlan.Toml.Value

/-!
# Numbers in range

The grammar lets numbers pass that cannot be read. `unreadable?` finds the first of them in a value;
`fits` says which values can be kept: their numbers can be read, and their integers have 64 bits.
-/

namespace MakePlan.Toml

set_option autoImplicit false

namespace Scalar

def unreadable? : Scalar → Option NumberForm
  | .unreadable form => some form
  | _ => none

/-- An integer is kept in 64 bits, one of them for the sign. -/
def fits : Scalar → Bool
  | .integer value => Int64.minValue.toInt ≤ value && value ≤ Int64.maxValue.toInt
  | .unreadable _ => false
  | _ => true

def isMomentText : Scalar → Bool
  | .text content => (Moment.ofText? content.toList).isSome
  | _ => false

end Scalar

mutual

/-- The form of the first number in a value that cannot be read. -/
def Value.unreadable? : Value → Option NumberForm
  | .scalar scalar => scalar.unreadable?
  | .array items => unreadableItem? items
  | .table entries => unreadableEntry? entries

def unreadableItem? : List Value → Option NumberForm
  | [] => none
  | item :: rest => item.unreadable? <|> unreadableItem? rest

def unreadableEntry? : List (String × Value) → Option NumberForm
  | [] => none
  | (_, value) :: rest => value.unreadable? <|> unreadableEntry? rest

end

/-- Whether a table stands for a date or time: the first of its keys says so. -/
def startsAsMoment : List (String × Value) → Bool
  | [] => false
  | (key, _) :: _ => key = Moment.key

mutual

/-- Whether a value can be kept. A table that stands for a date or time has to hold one. -/
def Value.fits : Value → Bool
  | .scalar scalar => scalar.fits
  | .array items => itemsFit items
  | .table ((key, .scalar scalar) :: rest) =>
      if key = Moment.key then scalar.isMomentText else scalar.fits && entriesFit rest
  | .table entries => !startsAsMoment entries && entriesFit entries

def itemsFit : List Value → Bool
  | [] => true
  | item :: rest => item.fits && itemsFit rest

def entriesFit : List (String × Value) → Bool
  | [] => true
  | (_, value) :: rest => value.fits && entriesFit rest

end

end MakePlan.Toml
