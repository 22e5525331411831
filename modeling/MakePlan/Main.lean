import MakePlan.Run

/-!
# The program

Carries out on the real file system what `MakePlan.run` says.
-/

namespace MakePlan

set_option autoImplicit false

/-- The cause of a failed read or write. The system's error 21 is a directory in place of a file. -/
def ioErrorOf : IO.Error → IoError
  | .noFileOrDirectory .. => .notFound
  | .inappropriateType _ code _ => if code = 21 then .isDirectory else .notDirectory
  | .invalidArgument .. => .nameTooLong
  | error => .other (toString error)

def readFileText (path : String) : IO (Except IoError String) := do
  try
    let content ← IO.FS.readBinFile path
    match String.fromUTF8? content with
    | some text => return .ok text
    | none => return .error .notText
  catch error => return .error (ioErrorOf error)

def writeFileText (path text : String) : IO (Except IoError Unit) := do
  try
    IO.FS.writeBinFile path text.toUTF8
    return .ok ()
  catch error => return .error (ioErrorOf error)

def rejectionText : String :=
  "error: cannot read the command line\n\nFor more information, try '--help'.\n"

def announce (outcome : Outcome) : IO UInt32 := do
  IO.print outcome.stdout
  for notice in outcome.stderr do
    IO.eprint (if notice = .rejection then rejectionText else notice.text)
  return UInt32.ofNat outcome.code

end MakePlan

open MakePlan

def main (arguments : List String) : IO UInt32 := do
  match Invocation.ofArguments arguments with
  | .run request =>
      let document ←
        match request.catalog with
        | some path => readFileText path
        | none => pure (.ok "")
      match request.prepare fun _ => document with
      | .error trouble => announce trouble.outcome
      | .ok product =>
          if request.dryRun then announce (request.preview product)
          else
            let written ← writeFileText request.makefile product.makefile
            announce (request.conclude product written)
  | _ =>
      let untouched : FileSystem := { directories := [], files := [], workingDirectory := [] }
      announce (run untouched arguments).1
