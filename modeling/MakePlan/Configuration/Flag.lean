import MakePlan.Configuration.Basic
import MakePlan.Text.Lines

/-!
# Flags

The table of build flags. It drives the reading of build options and the usage text, so the two
cannot disagree.
-/

namespace MakePlan

set_option autoImplicit false

inductive Flag.Effect
  | choose (choice : Choice)
  | write (slot : Slot) (placeholder : String)
  deriving DecidableEq, Repr

structure Flag where
  name : String
  effect : Flag.Effect
  description : String
  deriving DecidableEq, Repr

namespace Flag

/-- All flags, in the order in which the usage text lists them. -/
def all : List Flag :=
  [ ⟨"-o", .write .output "<name>", "output binary name"⟩,
    ⟨"-srcdir", .write .sourceDir "<dir>", "source directory"⟩,
    ⟨"-builddir", .write .buildDir "<dir>", "build directory"⟩,
    ⟨"-test", .choose .testMode, "build the local main.c instead of the server entry point"⟩,
    ⟨"-clang", .choose (.compiler .clang), "compile with clang (default)"⟩,
    ⟨"-gcc", .choose (.compiler .gcc), "compile with gcc"⟩,
    ⟨"-release", .choose (.profile .release), "optimized, stripped build (default)"⟩,
    ⟨"-debug", .choose (.profile .debug), "build with debug symbols"⟩,
    ⟨"-win32", .choose (.platform .win32), "target Windows (default)"⟩,
    ⟨"-linux", .choose (.platform .linux), "target Linux"⟩,
    ⟨"-freebsd", .choose (.platform .freebsd), "target FreeBSD"⟩,
    ⟨"-le", .choose (.byteOrder .little), "little-endian target (default)"⟩,
    ⟨"-be", .choose (.byteOrder .big), "big-endian target"⟩ ]

def find? (token : String) : Option Flag := all.find? (·.name = token)

def placeholder? (flag : Flag) : Option String :=
  match flag.effect with
  | .choose _ => none
  | .write _ placeholder => some placeholder

def synopsis (flag : Flag) : String :=
  match flag.placeholder? with
  | none => flag.name
  | some placeholder => flag.name ++ " " ++ placeholder

def padded (width : Nat) (text : String) : String :=
  text ++ String.ofList (List.replicate (width - text.length) ' ')

/-- A flag's line in the usage text: synopses are 16 wide, so the descriptions form a column. -/
def usageLine (flag : Flag) : String :=
  "  " ++ padded 16 flag.synopsis ++ "  " ++ flag.description

def usage (program : String) : String :=
  Text.block
    (["Usage: " ++ program ++ " [--makefile <PATH>] [--catalog <PATH>] [OPTION]...", "", "Options:"]
      ++ all.map usageLine)

end Flag

end MakePlan
