import MakePlan.NameMap
import MakePlan.Text.Suffix

/-!
# Catalogs

The tables that describe the project to build: its compilation units and headers, its toolchain, and
what each compiler and platform contributes.
-/

namespace MakePlan

set_option autoImplicit false

structure Toolchain where
  cflags : String
  debugCflags : String
  bigEndianDefine : String
  releaseLdflags : String
  debugLdflags : String
  ldlibs : String
  deriving DecidableEq, Repr

structure PlatformEntry where
  units : List String
  defines : List String
  deriving DecidableEq, Repr

structure Catalog where
  entryPoint : String
  localEntryPoint : String
  sourceSuffix : String
  objectSuffix : String
  headers : List String
  common : List String
  toolchain : Toolchain
  compilers : NameMap String
  platforms : NameMap PlatformEntry

namespace Catalog

/-- All units, those of each platform included, in the order in which they are checked. -/
def allUnits (catalog : Catalog) : List String :=
  catalog.common ++ catalog.platforms.values.flatMap (·.units)

/-- A unit is well named when it is a stem that is not empty, followed by the object suffix. -/
def wellNamed (catalog : Catalog) (unit : String) : Bool :=
  (Text.stem? catalog.objectSuffix unit).any (· ≠ "")

def misnamed? (catalog : Catalog) : Option String :=
  catalog.allUnits.find? (!catalog.wellNamed ·)

end Catalog

end MakePlan
