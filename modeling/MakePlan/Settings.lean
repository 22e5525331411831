import MakePlan.Catalog.Basic
import MakePlan.Failure
import MakePlan.Text.Blank

/-!
# Settings

What a configuration means under a catalog: the compiler, its flags, and the platform's tables. A
configuration whose free text could not stand in a Makefile is refused first.
-/

namespace MakePlan

set_option autoImplicit false

structure Settings where
  compiler : String
  cflags : String
  ldflags : String
  ldlibs : String
  platform : PlatformEntry
  deriving DecidableEq, Repr

def isUnsafe (c : Char) : Bool := Text.isBlank c || "#$\\:;%=".toList.contains c

namespace Configuration

def checkSlot (configuration : Configuration) (slot : Slot) : Except Failure Unit :=
  if (configuration.read slot).toList.any isUnsafe then
    .error (.unsafeValue slot (configuration.read slot))
  else .ok ()

/-- Refuses free text that could not stand in a Makefile. Directories may be empty, the output's
name may not. -/
def checkSlots (configuration : Configuration) : Except Failure Unit := do
  configuration.checkSlot .output
  configuration.checkSlot .sourceDir
  configuration.checkSlot .buildDir
  if configuration.output = "" then .error (.unsafeValue .output "") else .ok ()

/-- The compiler flags in order: for debugging, in general, for the platform, for the byte order. -/
def cflags (configuration : Configuration) (toolchain : Toolchain) (defines : List String) :
    List String :=
  (if configuration.profile = .debug then [toolchain.debugCflags] else []) ++
    [toolchain.cflags] ++ defines ++
    (if configuration.byteOrder = .big then [toolchain.bigEndianDefine] else [])

def ldflags (configuration : Configuration) (toolchain : Toolchain) : String :=
  match configuration.profile with
  | .release => toolchain.releaseLdflags
  | .debug => toolchain.debugLdflags

def resolve (configuration : Configuration) (catalog : Catalog) : Except Failure Settings := do
  configuration.checkSlots
  match catalog.compilers.find? configuration.compiler.name with
  | none => .error (.unknownCompiler configuration.compiler.name)
  | some compiler =>
      match catalog.platforms.find? configuration.platform.name with
      | none => .error (.unknownPlatform configuration.platform.name)
      | some platform =>
          .ok
            { compiler
              cflags := " ".intercalate (configuration.cflags catalog.toolchain platform.defines)
              ldflags := configuration.ldflags catalog.toolchain
              ldlibs := catalog.toolchain.ldlibs
              platform }

end Configuration

end MakePlan
