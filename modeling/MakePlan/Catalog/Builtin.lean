import MakePlan.Catalog.Basic

/-!
# The built-in catalog

The catalog of a run that names no other. To the common units each platform adds its own for atomic
access, the network, the system and threads.
-/

namespace MakePlan.Catalog

set_option autoImplicit false

def builtin : Catalog where
  entryPoint := "main"
  localEntryPoint := "main.c"
  sourceSuffix := ".c"
  objectSuffix := ".o"
  headers :=
    [ "array.h", "atomic.h", "cmdline.h", "connection.h", "log.h", "mem.h", "message.h", "mm.h",
      "mmblock.h", "network.h", "scheduler.h", "server.h", "system.h", "thread.h", "types.h",
      "util.h", "work.h", "work_group.h" ]
  common :=
    [ "adler32.o", "array.o", "cmdline.o", "connection.o", "log.o", "main.o", "mem.o", "message.o",
      "mm.o", "mmblock.o", "protocol_game.o", "protocol_login.o", "protocol_test.o", "scheduler.o",
      "server.o", "work.o", "work_group.o" ]
  toolchain :=
    { cflags := "-std=c99 -Wall -Wno-pointer-sign -D_XOPEN_SOURCE=700"
      debugCflags := "-g"
      bigEndianDefine := "-D__BIG_ENDIAN__"
      releaseLdflags := "-s -O2"
      debugLdflags := "-g"
      ldlibs := "-lc -lpthread" }
  compilers := .ofList [("clang", "clang"), ("gcc", "gcc")]
  platforms :=
    .ofList
      [ ("win32",
          { units := ["win32/atomic.o", "win32/network.o", "win32/system.o", "win32/thread.o"]
            defines := [] }),
        ("linux",
          { units := ["linux/atomic.o", "linux/network.o", "posix/system.o", "posix/thread.o"]
            defines := [] }),
        ("freebsd",
          { units := ["linux/atomic.o", "freebsd/network.o", "posix/system.o", "posix/thread.o"]
            defines := ["-D__BSD_VISIBLE=1"] }) ]

theorem misnamed?_builtin : builtin.misnamed? = none := by decide +kernel

end MakePlan.Catalog
