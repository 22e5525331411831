import MakePlan.Text.Quoted
import MakePlan.Toml.Value

/-!
# Mismatches

Why a TOML value is not what a catalog needs in its place.
-/

namespace MakePlan

set_option autoImplicit false

inductive Found
  | text (content : String)
  | integer (value : Int)
  | float (value : Decimal.Binary64)
  | boolean (value : Bool)
  | sequence
  | map
  deriving DecidableEq, Repr

/-- What a value is, unless it is a number that cannot be read. A date or time counts as a map. -/
def Found.ofValue : Toml.Value → Except Toml.NumberForm Found
  | .scalar (.text content) => .ok (.text content)
  | .scalar (.integer value) => .ok (.integer value)
  | .scalar (.float value) => .ok (.float value)
  | .scalar (.unreadable form) => .error form
  | .scalar (.boolean value) => .ok (.boolean value)
  | .scalar (.moment _) => .ok .map
  | .array _ => .ok .sequence
  | .table _ => .ok .map

/-- What is added to an integer that needs more than 64 bits: the name of the type of 128 bits that
holds it, with a sign if possible. -/
def widthNote (value : Int) : String :=
  if Int64.minValue.toInt ≤ value ∧ value < Int.ofNat UInt64.size then ""
  else if value < Int.ofNat (Nat.pow 2 127) then " as i128"
  else " as u128"

def Found.description : Found → String
  | .text content => "string " ++ Text.quoted content
  | .integer value => "integer `" ++ toString value ++ "`" ++ widthNote value
  | .float value => "floating point `" ++ value.text ++ "`"
  | .boolean value => "boolean `" ++ (if value then "true" else "false") ++ "`"
  | .sequence => "sequence"
  | .map => "map"

inductive Shape
  | text
  | sequence
  | map
  | toolchain
  | platform
  deriving DecidableEq, Repr

def Shape.description : Shape → String
  | .text => "a string"
  | .sequence => "a sequence"
  | .map => "a map"
  | .toolchain => "struct Toolchain"
  | .platform => "struct PlatformEntry"

inductive Mismatch
  | wrongType (found : Found) (expected : Shape)
  | missingField (name : String)
  /-- A record written as an array of `size` fields ended after `length` items. -/
  | tooShort (length : Nat) (expected : Shape) (size : Nat)
  /-- A number has no value that can be read. -/
  | overflow (form : Toml.NumberForm)
  deriving DecidableEq, Repr

def Mismatch.message : Mismatch → String
  | .wrongType found expected =>
      "invalid type: " ++ found.description ++ ", expected " ++ expected.description
  | .missingField name => "missing field `" ++ name ++ "`"
  | .tooShort length expected size =>
      "invalid length " ++ toString length ++ ", expected " ++ expected.description ++ " with "
        ++ toString size ++ " elements"
  | .overflow .integer => "integer number overflowed"
  | .overflow .float => "floating-point number overflowed"

end MakePlan
