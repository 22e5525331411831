import MakePlan.NameMap
import MakePlan.Toml.Value

/-!
# Tables under construction

While a document is read, each table remembers how it came about, because that decides whether it
may still grow. `Table.assign` and `Table.place` add to a tree of tables, or refuse.
-/

namespace MakePlan.Toml

set_option autoImplicit false

inductive Origin
  /-- It has a header of its own, or is an element of an array of tables, or the whole document. -/
  | header
  /-- A header below it was read, but none of its own. -/
  | implied
  /-- A dotted key leads through it. -/
  | dotted
  /-- It was written in braces, and is complete. -/
  | inline
  deriving DecidableEq, Repr

inductive Node
  | scalar (scalar : Scalar)
  /-- An array written in brackets, which is complete. -/
  | array (items : List Node)
  /-- An array of tables, one for each header in double brackets. -/
  | tables (items : List Node)
  | table (origin : Origin) (entries : List (String × Node))

structure Table where
  origin : Origin
  entries : List (String × Node)

namespace Table

def toNode (table : Table) : Node := .table table.origin table.entries

def find? (table : Table) (key : String) : Option Node := table.entries.lookup key

def put (table : Table) (key : String) (node : Node) : Table :=
  { table with entries := insertEntry key node table.entries }

/-- A path written as a dotted key passes only through tables made by such keys or implied by
headers; a header's path passes through every table that is not complete. -/
def mayPass (throughDots : Bool) (origin : Origin) : Bool :=
  if throughDots then origin = .implied || origin = .dotted else origin ≠ .inline

/-- Changes the table at the end of a path, making the missing tables on the way. In an array of
tables the way leads through the last one. -/
def updateAt (throughDots : Bool) (change : Table → Option Table) :
    List String → Table → Option Table
  | [], table => change table
  | key :: path, table =>
      match table.find? key with
      | none =>
          (updateAt throughDots change path ⟨if throughDots then .dotted else .implied, []⟩).map
            fun child => table.put key child.toNode
      | some (.table origin entries) =>
          if mayPass throughDots origin then
            (updateAt throughDots change path ⟨origin, entries⟩).map fun child =>
              table.put key child.toNode
          else none
      | some (.tables items) =>
          match items.getLast? with
          | some (.table origin entries) =>
              (updateAt throughDots change path ⟨origin, entries⟩).map fun child =>
                table.put key (.tables (items.dropLast ++ [child.toNode]))
          | _ => none
      | some _ => none

end Table

structure Entry where
  path : List String
  key : String
  value : Node

inductive Heading
  | table (path : List String) (key : String)
  | element (path : List String) (key : String)

structure Section where
  heading : Heading
  entries : List Entry

namespace Table

/-- Gives a new key its value. A dotted key adds only to a table made by dotted keys. -/
def assign (table : Table) (entry : Entry) : Option Table :=
  let throughDots := !entry.path.isEmpty
  let add (parent : Table) : Option Table :=
    if decide (parent.origin = .dotted) = throughDots ∧ (parent.find? entry.key).isNone then
      some (parent.put entry.key entry.value)
    else none
  updateAt throughDots add entry.path table

def fill (table : Table) (entries : List Entry) : Option Table := entries.foldlM assign table

/-- Adds a section to the document's table. A table's header may come after one below it, but only
once, and an array that grows by headers grows by nothing else. -/
def place (table : Table) (part : Section) : Option Table :=
  match part.heading with
  | .table path key =>
      let add (parent : Table) : Option Table := do
        let old ←
          match parent.find? key with
          | none => some []
          | some (.table .implied entries) => some entries
          | some _ => none
        let filled ← fill ⟨.header, old⟩ part.entries
        some (parent.put key filled.toNode)
      updateAt false add path table
  | .element path key =>
      let add (parent : Table) : Option Table := do
        let old ←
          match parent.find? key with
          | none => some []
          | some (.tables items) => some items
          | some _ => none
        let filled ← fill ⟨.header, []⟩ part.entries
        some (parent.put key (.tables (old ++ [filled.toNode])))
      updateAt false add path table

end Table

mutual

def Node.toValue : Node → Value
  | .scalar scalar => .scalar scalar
  | .array items => .array (itemValues items)
  | .tables items => .array (itemValues items)
  | .table _ entries => .table (entryValues entries)

def itemValues : List Node → List Value
  | [] => []
  | item :: rest => item.toValue :: itemValues rest

def entryValues : List (String × Node) → List (String × Value)
  | [] => []
  | (key, node) :: rest => (key, node.toValue) :: entryValues rest

end

end MakePlan.Toml
