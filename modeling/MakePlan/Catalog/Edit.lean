import MakePlan.Catalog.Basic

/-!
# Editing a catalog

Changes to single parts of a catalog. None of them checks the names of units.
-/

namespace MakePlan

set_option autoImplicit false

inductive TextField
  | entryPoint
  | localEntryPoint
  | sourceSuffix
  | objectSuffix
  | cflags
  | debugCflags
  | bigEndianDefine
  | releaseLdflags
  | debugLdflags
  | ldlibs
  deriving DecidableEq, Repr

namespace TextField

def all : List TextField :=
  [ entryPoint, localEntryPoint, sourceSuffix, objectSuffix, cflags, debugCflags, bigEndianDefine,
    releaseLdflags, debugLdflags, ldlibs ]

def key : TextField → String
  | entryPoint => "entry_point"
  | localEntryPoint => "local_entry_point"
  | sourceSuffix => "source_suffix"
  | objectSuffix => "object_suffix"
  | cflags => "cflags"
  | debugCflags => "debug_cflags"
  | bigEndianDefine => "big_endian_define"
  | releaseLdflags => "release_ldflags"
  | debugLdflags => "debug_ldflags"
  | ldlibs => "ldlibs"

def ofKey? (key : String) : Option TextField := all.find? (·.key = key)

end TextField

namespace Catalog

def setToolchain (catalog : Catalog) (toolchain : Toolchain) : Catalog :=
  { catalog with toolchain }

def setText (catalog : Catalog) (field : TextField) (text : String) : Catalog :=
  let toolchain := catalog.toolchain
  match field with
  | .entryPoint => { catalog with entryPoint := text }
  | .localEntryPoint => { catalog with localEntryPoint := text }
  | .sourceSuffix => { catalog with sourceSuffix := text }
  | .objectSuffix => { catalog with objectSuffix := text }
  | .cflags => catalog.setToolchain { toolchain with cflags := text }
  | .debugCflags => catalog.setToolchain { toolchain with debugCflags := text }
  | .bigEndianDefine => catalog.setToolchain { toolchain with bigEndianDefine := text }
  | .releaseLdflags => catalog.setToolchain { toolchain with releaseLdflags := text }
  | .debugLdflags => catalog.setToolchain { toolchain with debugLdflags := text }
  | .ldlibs => catalog.setToolchain { toolchain with ldlibs := text }

def setHeaders (catalog : Catalog) (headers : List String) : Catalog := { catalog with headers }

def setCommon (catalog : Catalog) (common : List String) : Catalog := { catalog with common }

def putPlatform (catalog : Catalog) (name : String) (entry : PlatformEntry) : Catalog :=
  { catalog with platforms := catalog.platforms.insert name entry }

def dropPlatform (catalog : Catalog) (name : String) : Catalog :=
  { catalog with platforms := catalog.platforms.erase name }

def putCompiler (catalog : Catalog) (name value : String) : Catalog :=
  { catalog with compilers := catalog.compilers.insert name value }

def dropCompiler (catalog : Catalog) (name : String) : Catalog :=
  { catalog with compilers := catalog.compilers.erase name }

end Catalog

end MakePlan
