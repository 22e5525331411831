/-!
# Build configurations

What a user may choose about a build, the choices one by one, and their effect on a configuration.
-/

namespace MakePlan

set_option autoImplicit false

inductive Compiler
  | clang
  | gcc
  deriving DecidableEq, Repr

def Compiler.name : Compiler → String
  | .clang => "clang"
  | .gcc => "gcc"

inductive Profile
  | release
  | debug
  deriving DecidableEq, Repr

def Profile.name : Profile → String
  | .release => "release"
  | .debug => "debug"

inductive Platform
  | win32
  | linux
  | freebsd
  deriving DecidableEq, Repr

def Platform.name : Platform → String
  | .win32 => "win32"
  | .linux => "linux"
  | .freebsd => "freebsd"

inductive ByteOrder
  | little
  | big
  deriving DecidableEq, Repr

def ByteOrder.name : ByteOrder → String
  | .little => "little"
  | .big => "big"

inductive Slot
  | output
  | sourceDir
  | buildDir
  deriving DecidableEq, Repr

/-- What a slot holds, as a message calls it. -/
def Slot.label : Slot → String
  | .output => "output name"
  | .sourceDir => "source directory"
  | .buildDir => "build directory"

structure Configuration where
  compiler : Compiler := .clang
  profile : Profile := .release
  platform : Platform := .win32
  byteOrder : ByteOrder := .little
  output : String := "kaplar"
  sourceDir : String := "src/"
  buildDir : String := "build/"
  testMode : Bool := false
  deriving DecidableEq, Repr

inductive Choice
  | compiler (compiler : Compiler)
  | profile (profile : Profile)
  | platform (platform : Platform)
  | byteOrder (order : ByteOrder)
  | testMode
  deriving DecidableEq, Repr

inductive Assignment
  | choose (choice : Choice)
  | write (slot : Slot) (value : String)
  deriving DecidableEq, Repr

namespace Configuration

def read (configuration : Configuration) : Slot → String
  | .output => configuration.output
  | .sourceDir => configuration.sourceDir
  | .buildDir => configuration.buildDir

def assign (configuration : Configuration) : Assignment → Configuration
  | .choose (.compiler compiler) => { configuration with compiler }
  | .choose (.profile profile) => { configuration with profile }
  | .choose (.platform platform) => { configuration with platform }
  | .choose (.byteOrder byteOrder) => { configuration with byteOrder }
  | .choose .testMode => { configuration with testMode := true }
  | .write .output output => { configuration with output }
  | .write .sourceDir sourceDir => { configuration with sourceDir }
  | .write .buildDir buildDir => { configuration with buildDir }

/-- The defaults under a sequence of assignments. A later one overrides an earlier one of the same
setting. -/
def ofAssignments (assignments : List Assignment) : Configuration :=
  assignments.foldl assign {}

end Configuration

end MakePlan
