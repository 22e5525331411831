import MakePlan.Catalog.Schema
import MakePlan.Failure
import MakePlan.Toml.Document

/-!
# Loading a catalog

A catalog comes from a TOML document and is used only if its units are well named.
-/

namespace MakePlan.Catalog

set_option autoImplicit false

def validate (catalog : Catalog) : Except Failure Unit :=
  if catalog.common = [] then .error .emptyCatalog
  else
    match catalog.misnamed? with
    | some unit => .error (.invalidUnit unit catalog.objectSuffix)
    | none => .ok ()

/-- Why a document that is not a catalog is refused. One with a value that cannot be kept is no
document at all, wherever the mismatch is. -/
def refusal (entries : List (String × Toml.Value)) (mismatch : Mismatch) : Failure :=
  if Toml.entriesFit entries then .mismatchedCatalog mismatch else .malformedCatalog

/-- The catalog in a document, not yet validated. -/
def decode (document : String) : Except Failure Catalog :=
  match Toml.parse? document with
  | none => .error .malformedCatalog
  | some entries => (ofEntries entries).mapError (refusal entries)

def parse (document : String) : Except Failure Catalog := do
  let catalog ← decode document
  catalog.validate
  .ok catalog

def load (system : FileSystem) (path : String) : Except Failure Catalog := do
  let document ← (system.readText path).mapError .io
  parse document

end MakePlan.Catalog
