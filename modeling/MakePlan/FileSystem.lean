/-!
# File system

Directories and files by location, and what reading and writing a file through a path does to them.
A write either fails and changes nothing, or leaves the whole new content.
-/

namespace MakePlan

set_option autoImplicit false

inductive IoError
  | notFound
  | notDirectory
  | isDirectory
  | nameTooLong
  | notText
  /-- A cause outside this model, such as a full disk, in its own words. -/
  | other (words : String)
  deriving DecidableEq, Repr

def IoError.message : IoError → String
  | .notFound => "No such file or directory (os error 2)"
  | .notDirectory => "Not a directory (os error 20)"
  | .isDirectory => "Is a directory (os error 21)"
  | .nameTooLong => "File name too long (os error 36)"
  | .notText => "stream did not contain valid UTF-8"
  | .other words => words

/-- The names that lead from the root to a place, outermost first. -/
abbrev Location := List String

inductive Item
  | directory
  | file (content : ByteArray)

structure FileSystem where
  directories : List Location
  files : List (Location × ByteArray)
  workingDirectory : Location

structure Path where
  absolute : Bool
  parts : List String
  /-- It ends in a slash, so it can only mean a directory. -/
  slashed : Bool

def splitSlashes : List Char → List (List Char)
  | [] => [[]]
  | c :: rest =>
      if c = '/' then [] :: splitSlashes rest
      else
        match splitSlashes rest with
        | [] => [[c]]
        | first :: others => (c :: first) :: others

def Path.ofString (text : String) : Path where
  absolute := text.toList.head? = some '/'
  parts := ((splitSlashes text.toList).filter (!·.isEmpty)).map String.ofList
  slashed := text.toList.getLast? = some '/'

def putContent (place : Location) (content : ByteArray) :
    List (Location × ByteArray) → List (Location × ByteArray)
  | [] => [(place, content)]
  | entry :: rest =>
      if entry.1 = place then (place, content) :: rest
      else entry :: putContent place content rest

namespace FileSystem

/-- What stands at a location. The root is always a directory. -/
def item? (system : FileSystem) (place : Location) : Option Item :=
  if place = [] ∨ place ∈ system.directories then some .directory
  else (system.files.lookup place).map .file

def nameLimit : Nat := 255

def pathLimit : Nat := 4095

def requireDirectory (system : FileSystem) (place : Location) : Except IoError Unit :=
  match system.item? place with
  | some .directory => .ok ()
  | some (.file _) => .error .notDirectory
  | none => .error .notFound

def step (system : FileSystem) (here : Location) (part : String) : Except IoError Location := do
  system.requireDirectory here
  if part = "." then .ok here
  else if part = ".." then .ok here.dropLast
  else if nameLimit < part.utf8ByteSize then .error .nameTooLong
  else if (system.item? (here ++ [part])).isSome then .ok (here ++ [part])
  else .error .notFound

def walk (system : FileSystem) (parts : List String) (here : Location) : Except IoError Location :=
  parts.foldlM system.step here

def start (system : FileSystem) (path : Path) : Location :=
  if path.absolute then [] else system.workingDirectory

def checkPath (path : String) : Except IoError Unit :=
  if path = "" then .error .notFound
  else if pathLimit < path.utf8ByteSize then .error .nameTooLong
  else .ok ()

def read (system : FileSystem) (path : String) : Except IoError ByteArray := do
  checkPath path
  let parsed := Path.ofString path
  let place ← system.walk parsed.parts (system.start parsed)
  match system.item? place with
  | some (.file content) => if parsed.slashed then .error .notDirectory else .ok content
  | some .directory => .error .isDirectory
  | none => .error .notFound

def readText (system : FileSystem) (path : String) : Except IoError String := do
  match String.fromUTF8? (← system.read path) with
  | some text => .ok text
  | none => .error .notText

/-- The location that a write through a path would fill: a file, or a new name in a directory. -/
def target (system : FileSystem) (path : String) : Except IoError Location := do
  checkPath path
  let parsed := Path.ofString path
  match parsed.parts.getLast? with
  | none => .error .isDirectory
  | some last =>
      let parent ← system.walk parsed.parts.dropLast (system.start parsed)
      system.requireDirectory parent
      if parsed.slashed ∨ last = "." ∨ last = ".." then .error .isDirectory
      else if nameLimit < last.utf8ByteSize then .error .nameTooLong
      else
        match system.item? (parent ++ [last]) with
        | some .directory => .error .isDirectory
        | _ => .ok (parent ++ [last])

def write (system : FileSystem) (path : String) (content : ByteArray) :
    Except IoError FileSystem := do
  let place ← system.target path
  .ok { system with files := putContent place content system.files }

def addDirectory (system : FileSystem) (place : Location) : FileSystem :=
  let around := (List.range place.length).map fun depth => place.take (depth + 1)
  { system with directories := system.directories ++ around }

def addFile (system : FileSystem) (place : Location) (content : ByteArray) : FileSystem :=
  let system := system.addDirectory place.dropLast
  { system with files := putContent place content system.files }

def filesBelow (system : FileSystem) : List (String × ByteArray) :=
  system.files.filterMap fun (place, content) =>
    if system.workingDirectory.isPrefixOf place then
      some ("/".intercalate (place.drop system.workingDirectory.length), content)
    else none

end FileSystem

end MakePlan
