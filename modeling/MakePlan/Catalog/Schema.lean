import MakePlan.Catalog.Basic
import MakePlan.Catalog.Mismatch
import MakePlan.Toml.Range

/-!
# The catalog's schema

Reading a catalog from a TOML table. The known entries of a table are read in the order of their
keys, and the first that does not fit is reported; fields that are missing come after that, in the
order in which the record declares them. The value of an unknown key is skipped, if it can be read.
-/

namespace MakePlan

set_option autoImplicit false

abbrev Reader (α : Type) := Toml.Value → Except Mismatch α

namespace Schema

def refuse {α : Type} (expected : Shape) (value : Toml.Value) : Except Mismatch α :=
  match Found.ofValue value with
  | .ok found => .error (.wrongType found expected)
  | .error form => .error (.overflow form)

def text : Reader String
  | .scalar (.text content) => .ok content
  | value => refuse .text value

/-- Takes note of a value only if it cannot be read. -/
def skip : Reader Unit := fun value =>
  match value.unreadable? with
  | none => .ok ()
  | some form => .error (.overflow form)

def texts : Reader (List String)
  | .array items => items.mapM text
  | value => refuse .sequence value

def entries? : Toml.Value → Option (List (String × Toml.Value))
  | .table entries => some entries
  | .scalar (.moment moment) => some [(Toml.Moment.key, .scalar (.text moment.text))]
  | _ => none

def mapOf {α : Type} (read : Reader α) : Reader (NameMap α) := fun value =>
  match entries? value with
  | some entries => do
      let read ← entries.mapM fun (key, value) => (read value).map (key, ·)
      .ok (.ofList read)
  | none => refuse .map value

/-- Where the fields of a record come from: the entries of a table, or the items of an array in the
order of declaration. -/
inductive Source
  | named (entries : List (String × Toml.Value))
  | listed (shape : Shape) (size : Nat) (items : List Toml.Value)

namespace Source

def find? (source : Source) (place : Nat) (name : String) : Option Toml.Value :=
  match source with
  | .named entries => entries.lookup name
  | .listed _ _ items => items[place]?

def field {α : Type} (source : Source) (place : Nat) (name : String) (read : Reader α) :
    Except Mismatch α :=
  match source.find? place name with
  | some value => read value
  | none =>
      match source with
      | .named _ => .error (.missingField name)
      | .listed shape size _ => .error (.tooShort place shape size)

def optionalField {α : Type} (source : Source) (place : Nat) (name : String) (read : Reader α)
    (absent : α) : Except Mismatch α :=
  match source.find? place name with
  | some value => read value
  | none => .ok absent

end Source

/-- Reads each entry, for its failure only. -/
def checkEntries (check : String → Toml.Value → Except Mismatch Unit)
    (entries : List (String × Toml.Value)) : Except Mismatch Unit :=
  entries.forM fun (key, value) => check key value

def record {α : Type} (shape : Shape) (size : Nat)
    (check : String → Toml.Value → Except Mismatch Unit) (build : Source → Except Mismatch α) :
    Reader α := fun value =>
  match entries? value with
  | some entries => do
      checkEntries check entries
      build (.named entries)
  | none =>
      match value with
      | .array items => build (.listed shape size items)
      | _ => refuse shape value

def toolchainKeys : List String :=
  ["cflags", "debug_cflags", "big_endian_define", "release_ldflags", "debug_ldflags", "ldlibs"]

def checkToolchain (key : String) (value : Toml.Value) : Except Mismatch Unit :=
  if key ∈ toolchainKeys then (text value).map fun _ => () else skip value

def buildToolchain (source : Source) : Except Mismatch Toolchain := do
  let cflags ← source.field 0 "cflags" text
  let debugCflags ← source.field 1 "debug_cflags" text
  let bigEndianDefine ← source.field 2 "big_endian_define" text
  let releaseLdflags ← source.field 3 "release_ldflags" text
  let debugLdflags ← source.field 4 "debug_ldflags" text
  let ldlibs ← source.field 5 "ldlibs" text
  .ok { cflags, debugCflags, bigEndianDefine, releaseLdflags, debugLdflags, ldlibs }

def toolchain : Reader Toolchain := record .toolchain 6 checkToolchain buildToolchain

def checkPlatform (key : String) (value : Toml.Value) : Except Mismatch Unit :=
  if key = "units" ∨ key = "defines" then (texts value).map fun _ => () else skip value

/-- A platform without definitions has none. -/
def buildPlatform (source : Source) : Except Mismatch PlatformEntry := do
  let units ← source.field 0 "units" texts
  let defines ← source.optionalField 1 "defines" texts []
  .ok { units, defines }

def platform : Reader PlatformEntry := record .platform 2 checkPlatform buildPlatform

def checkCatalog (key : String) (value : Toml.Value) : Except Mismatch Unit :=
  if key ∈ ["entry_point", "local_entry_point", "source_suffix", "object_suffix"] then
    (text value).map fun _ => ()
  else if key = "headers" ∨ key = "common" then (texts value).map fun _ => ()
  else if key = "toolchain" then (toolchain value).map fun _ => ()
  else if key = "compilers" then (mapOf text value).map fun _ => ()
  else if key = "platforms" then (mapOf platform value).map fun _ => ()
  else skip value

def buildCatalog (source : Source) : Except Mismatch Catalog := do
  let entryPoint ← source.field 0 "entry_point" text
  let localEntryPoint ← source.field 1 "local_entry_point" text
  let sourceSuffix ← source.field 2 "source_suffix" text
  let objectSuffix ← source.field 3 "object_suffix" text
  let headers ← source.field 4 "headers" texts
  let common ← source.field 5 "common" texts
  let toolchain ← source.field 6 "toolchain" toolchain
  let compilers ← source.field 7 "compilers" (mapOf text)
  let platforms ← source.field 8 "platforms" (mapOf platform)
  .ok { entryPoint, localEntryPoint, sourceSuffix, objectSuffix, headers, common, toolchain,
        compilers, platforms }

end Schema

def Catalog.ofEntries (entries : List (String × Toml.Value)) : Except Mismatch Catalog := do
  Schema.checkEntries Schema.checkCatalog entries
  Schema.buildCatalog (.named entries)

end MakePlan
