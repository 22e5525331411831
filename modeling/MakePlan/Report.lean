import MakePlan.Plan

/-!
# Reports

A plan and its configuration as JSON, one field or item to a line and indented by two spaces.
-/

namespace MakePlan

set_option autoImplicit false

inductive Json
  | text (content : String)
  | boolean (value : Bool)
  | list (items : List Json)
  | record (fields : List (String × Json))

namespace Json

def hexCode (code : Nat) : List Char :=
  let digits := Nat.toDigits 16 code
  List.replicate (4 - digits.length) '0' ++ digits

def escaped (c : Char) : List Char :=
  if c = '"' ∨ c = '\\' then ['\\', c]
  else if c = '\x08' then ['\\', 'b']
  else if c = '\x0c' then ['\\', 'f']
  else if c = '\n' then ['\\', 'n']
  else if c = '\r' then ['\\', 'r']
  else if c = '\t' then ['\\', 't']
  else if c.toNat < 0x20 then ['\\', 'u'] ++ hexCode c.toNat
  else [c]

def quotedText (content : String) : List Char :=
  '"' :: content.toList.flatMap escaped ++ ['"']

def newRow (depth : Nat) : List Char := '\n' :: List.replicate (2 * depth) ' '

/-- Parts between an opening and a closing mark, each on a row of its own. Without parts the marks
stand side by side. -/
def enclose (opening closing : Char) (depth : Nat) : List (List Char) → List Char
  | [] => [opening, closing]
  | parts =>
      [opening] ++ [','].intercalate (parts.map (newRow (depth + 1) ++ ·)) ++ newRow depth
        ++ [closing]

mutual

def write (depth : Nat) : Json → List Char
  | .text content => quotedText content
  | .boolean value => (if value then "true" else "false").toList
  | .list items => enclose '[' ']' depth (writeItems (depth + 1) items)
  | .record fields => enclose '\x7b' '\x7d' depth (writeFields (depth + 1) fields)

def writeItems (depth : Nat) : List Json → List (List Char)
  | [] => []
  | item :: rest => write depth item :: writeItems depth rest

def writeFields (depth : Nat) : List (String × Json) → List (List Char)
  | [] => []
  | (name, value) :: rest =>
      (quotedText name ++ [':', ' '] ++ write depth value) :: writeFields depth rest

end

def render (json : Json) : String := String.ofList (json.write 0)

def texts (items : List String) : Json := .list (items.map .text)

end Json

def Configuration.toJson (configuration : Configuration) : Json :=
  .record
    [ ("compiler", .text configuration.compiler.name),
      ("profile", .text configuration.profile.name),
      ("platform", .text configuration.platform.name),
      ("byte_order", .text configuration.byteOrder.name),
      ("output", .text configuration.output),
      ("src_dir", .text configuration.sourceDir),
      ("build_dir", .text configuration.buildDir),
      ("test_mode", .boolean configuration.testMode) ]

def CompilationUnit.toJson (unit : CompilationUnit) : Json :=
  .record [("object", .text unit.object), ("source", .text unit.source)]

def Plan.toJson (plan : Plan) : Json :=
  .record
    [ ("compiler", .text plan.compiler),
      ("cflags", .text plan.cflags),
      ("ldflags", .text plan.ldflags),
      ("ldlibs", .text plan.ldlibs),
      ("deps", .texts plan.deps),
      ("units", .list (plan.units.map (·.toJson))),
      ("target", .text plan.target),
      ("build_dir", .text plan.buildDir) ]

def Plan.report (plan : Plan) (configuration : Configuration) : String :=
  (Json.record [("configuration", configuration.toJson), ("plan", plan.toJson)]).render ++ "\n"

end MakePlan
