import MakePlan.Settings

/-!
# Build plans

Which files a build compiles and links, by path. Directories are joined to names by putting one in
front of the other, so a slash is added to a directory that lacks it.
-/

namespace MakePlan

set_option autoImplicit false

structure CompilationUnit where
  object : String
  source : String
  deriving DecidableEq, Repr

structure Plan where
  compiler : String
  cflags : String
  ldflags : String
  ldlibs : String
  deps : List String
  units : List CompilationUnit
  target : String
  buildDir : String
  deriving DecidableEq, Repr

/-- The directory as it stands in front of a name. The empty directory is the current one. -/
def directoryPrefix (directory : String) : String :=
  if directory = "" ∨ directory.toList.getLast? = some '/' then directory else directory ++ "/"

namespace Configuration

def sourcePrefix (configuration : Configuration) : String :=
  directoryPrefix configuration.sourceDir

def buildPrefix (configuration : Configuration) : String :=
  directoryPrefix configuration.buildDir

def objectPrefix (configuration : Configuration) : String :=
  configuration.buildPrefix ++ "obj/"

def compilationUnit (configuration : Configuration) (catalog : Catalog) (unit : String) :
    CompilationUnit :=
  let stem := (Text.stem? catalog.objectSuffix unit).getD unit
  { object := configuration.objectPrefix ++ unit
    source := configuration.sourcePrefix ++ stem ++ catalog.sourceSuffix }

theorem compilation_unit_stem (configuration : Configuration) (catalog : Catalog) (stem : String) :
    configuration.compilationUnit catalog (stem ++ catalog.objectSuffix) =
      { object := configuration.objectPrefix ++ (stem ++ catalog.objectSuffix)
        source := configuration.sourcePrefix ++ stem ++ catalog.sourceSuffix } := by
  have stripped : Text.stem? catalog.objectSuffix (stem ++ catalog.objectSuffix) = some stem :=
    Text.stem?_eq_some_iff.2 rfl
  simp only [compilationUnit, stripped, Option.getD_some]

def isEntryPoint (configuration : Configuration) (catalog : Catalog) (unit : CompilationUnit) :
    Bool :=
  unit.object = configuration.objectPrefix ++ catalog.entryPoint ++ catalog.objectSuffix ||
    unit.source = configuration.sourcePrefix ++ catalog.entryPoint ++ catalog.sourceSuffix

def plainUnits (configuration : Configuration) (catalog : Catalog) (platform : PlatformEntry) :
    List CompilationUnit :=
  (catalog.common ++ platform.units).map (configuration.compilationUnit catalog)

def entryPoint? (configuration : Configuration) (catalog : Catalog)
    (units : List CompilationUnit) : Option CompilationUnit :=
  units.find? (configuration.isEntryPoint catalog)

/-- Moves the first unit for the entry point to the end and gives it the local source. Its object
stays where it was. -/
def substituteEntryPoint (configuration : Configuration) (catalog : Catalog)
    (units : List CompilationUnit) : List CompilationUnit :=
  match configuration.entryPoint? catalog units with
  | none => units
  | some entry =>
      units.eraseP (configuration.isEntryPoint catalog) ++
        [{ object := entry.object, source := catalog.localEntryPoint }]

def units (configuration : Configuration) (catalog : Catalog) (platform : PlatformEntry) :
    List CompilationUnit :=
  if configuration.testMode then
    configuration.substituteEntryPoint catalog (configuration.plainUnits catalog platform)
  else configuration.plainUnits catalog platform

def plan (configuration : Configuration) (catalog : Catalog) (settings : Settings) : Plan where
  compiler := settings.compiler
  cflags := settings.cflags
  ldflags := settings.ldflags
  ldlibs := settings.ldlibs
  deps := catalog.headers.map (configuration.sourcePrefix ++ ·)
  units := configuration.units catalog settings.platform
  target := configuration.buildPrefix ++ configuration.output
  buildDir := configuration.buildPrefix

end Configuration

end MakePlan
