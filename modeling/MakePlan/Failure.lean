import MakePlan.Catalog.Mismatch
import MakePlan.Configuration.Basic
import MakePlan.FileSystem

/-!
# Failures

Everything that ends a run before the Makefile is written, with its message and exit status.
-/

namespace MakePlan

set_option autoImplicit false

inductive Failure
  | unknownOption (token : String)
  | missingValue (flag : String)
  | unknownCompiler (name : String)
  | unknownPlatform (name : String)
  /-- A value with a character that a Makefile would not take literally. -/
  | unsafeValue (slot : Slot) (value : String)
  | invalidUnit (unit suffix : String)
  | emptyCatalog
  /-- The catalog is no TOML document. -/
  | malformedCatalog
  /-- The catalog is a TOML document of another shape. -/
  | mismatchedCatalog (mismatch : Mismatch)
  | io (error : IoError)
  deriving DecidableEq, Repr

namespace Failure

def message : Failure → String
  | unknownOption token => "Invalid option used: \"" ++ token ++ "\""
  | missingValue flag => "Option \"" ++ flag ++ "\" requires a value"
  | unknownCompiler name => "No compiler executable configured for \"" ++ name ++ "\""
  | unknownPlatform name => "No catalog entry for platform \"" ++ name ++ "\""
  | unsafeValue slot value => slot.label ++ " \"" ++ value ++ "\" cannot be used in a Makefile"
  | invalidUnit unit suffix =>
      "Catalog unit \"" ++ unit ++ "\" does not end in \"" ++ suffix ++ "\""
  | emptyCatalog => "Catalog has no common compilation units"
  | malformedCatalog => "Failed to parse catalog: not a TOML document"
  | mismatchedCatalog mismatch => "Failed to parse catalog: " ++ mismatch.message
  | io error => "I/O error: " ++ error.message

def messageWithCause : Failure → String
  | io error => message (io error) ++ ": " ++ error.message
  | failure => failure.message

def exitCode : Failure → Nat
  | unknownOption _ | missingValue _ => 2
  | _ => 1

end Failure

end MakePlan
