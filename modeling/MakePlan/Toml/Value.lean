import MakePlan.Decimal.Shortest
import MakePlan.Toml.Moment

/-!
# TOML values

The content of a document as a tree. A document is a table, and the entries of a table stand in
increasing order of key.
-/

namespace MakePlan.Toml

set_option autoImplicit false

inductive NumberForm
  | integer
  | float
  deriving DecidableEq, Repr

inductive Scalar
  | text (text : String)
  | integer (value : Int)
  | float (value : Decimal.Binary64)
  /-- A literal with the form of a number but without a value that can be read: its digits are
  missing, foreign to its radix or too many. -/
  | unreadable (form : NumberForm)
  | boolean (value : Bool)
  | moment (moment : Moment)
  deriving DecidableEq, Repr

inductive Value
  | scalar (scalar : Scalar)
  | array (items : List Value)
  | table (entries : List (String × Value))

end MakePlan.Toml
