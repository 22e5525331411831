import MakePlan.Report
import Mathlib.Data.Nat.Digits.Defs

/-!
# Reports as JSON

The texts that spell a JSON value, by the grammar of the format: blanks may stand around each value,
and a character may stand in a string as itself, behind a backslash or by its code. A report is such
a text, and its value says all of a configuration and of a plan.
-/

namespace MakePlan

set_option autoImplicit false

namespace Json

def blanks : List Char := [' ', '\t', '\n', '\r']

def marks : List (Char × Char) :=
  [ ('"', '"'), ('\\', '\\'), ('/', '/'), ('\x08', 'b'), ('\x0c', 'f'), ('\n', 'n'), ('\r', 'r'),
    ('\t', 't') ]

inductive Stands : Char → List Char → Prop
  | plain {c : Char} (noControl : 0x20 ≤ c.toNat) (noQuote : c ≠ '"') (noBackslash : c ≠ '\\') :
      Stands c [c]
  | marked {c mark : Char} (listed : (c, mark) ∈ marks) : Stands c ['\\', mark]
  | coded {c : Char} {digits : List Nat} (four : digits.length = 4) (small : ∀ d ∈ digits, d < 16)
      (code : Nat.ofDigits 16 digits.reverse = c.toNat) :
      Stands c ('\\' :: 'u' :: digits.map Nat.digitChar)

inductive Quotes : List Char → List Char → Prop
  | nil : Quotes [] []
  | cons {c : Char} {rest text tail : List Char} (stands : Stands c text)
      (quotes : Quotes rest tail) : Quotes (c :: rest) (text ++ tail)

inductive Listed {α : Type} (Part : α → List Char → Prop) : List α → List Char → Prop
  | none {text : List Char} (blank : ∀ c ∈ text, c ∈ blanks) : Listed Part [] text
  | last {part : α} {text : List Char} (spelled : Part part text) : Listed Part [part] text
  | more {part next : α} {rest : List α} {text tail : List Char} (spelled : Part part text)
      (listed : Listed Part (next :: rest) tail) :
      Listed Part (part :: next :: rest) (text ++ ',' :: tail)

mutual

inductive Spells : Json → List Char → Prop
  | text {content : String} {text : List Char} (quotes : Quotes content.toList text) :
      Spells (.text content) ('"' :: text ++ ['"'])
  | yes : Spells (.boolean true) ['t', 'r', 'u', 'e']
  | no : Spells (.boolean false) ['f', 'a', 'l', 's', 'e']
  | list {items : List Json} {text : List Char} (listed : Listed Spells items text) :
      Spells (.list items) ('[' :: text ++ [']'])
  | record {fields : List (String × Json)} {text : List Char}
      (listed : Listed SpellsField fields text) :
      Spells (.record fields) ('\x7b' :: text ++ ['\x7d'])
  | spaced {json : Json} {front text back : List Char} (spelled : Spells json text)
      (blankFront : ∀ c ∈ front, c ∈ blanks) (blankBack : ∀ c ∈ back, c ∈ blanks) :
      Spells json (front ++ text ++ back)

inductive SpellsField : String × Json → List Char → Prop
  | named {name : String} {json : Json} {label text : List Char}
      (labelled : Spells (.text name) label) (spelled : Spells json text) :
      SpellsField (name, json) (label ++ ':' :: text)

end

section Strings

theorem hex_code_of_small :
    ∀ code < 0x20, hexCode code = [0, 0, code / 16, code % 16].map Nat.digitChar := by
  decide

theorem stands_hex_code {c : Char} (control : c.toNat < 0x20) :
    Stands c (['\\', 'u'] ++ hexCode c.toNat) := by
  rw [hex_code_of_small c.toNat control]
  refine .coded rfl ?_ ?_
  · simp only [List.forall_mem_cons]
    exact ⟨by decide, by decide, by omega, by omega, by simp⟩
  · simp [Nat.ofDigits_cons]
    omega

theorem stands_escaped (c : Char) : Stands c (escaped c) := by
  unfold escaped
  split
  · rename_i special
    rcases special with rfl | rfl
    · exact .marked (by decide)
    · exact .marked (by decide)
  · rename_i ordinary
    obtain ⟨noQuote, noBackslash⟩ := not_or.1 ordinary
    split_ifs with backspace formFeed lineFeed carriageReturn tab control
    · exact backspace ▸ .marked (by decide)
    · exact formFeed ▸ .marked (by decide)
    · exact lineFeed ▸ .marked (by decide)
    · exact carriageReturn ▸ .marked (by decide)
    · exact tab ▸ .marked (by decide)
    · exact stands_hex_code control
    · exact .plain (Nat.le_of_not_lt control) noQuote noBackslash

theorem quotes_escaped (content : List Char) : Quotes content (content.flatMap escaped) := by
  induction content with
  | nil => exact .nil
  | cons c rest induction => exact .cons (stands_escaped c) induction

end Strings

theorem blank_new_row (depth : Nat) : ∀ c ∈ newRow depth, c ∈ blanks := by
  intro c inside
  rcases List.mem_cons.1 inside with rfl | space
  · decide
  · rw [List.eq_of_mem_replicate space]
    decide

def Spaced {α : Type} (Part : α → List Char → Prop) : Prop :=
  ∀ {part : α} {front text back : List Char}, Part part text → (∀ c ∈ front, c ∈ blanks) →
    (∀ c ∈ back, c ∈ blanks) → Part part (front ++ text ++ back)

theorem spaced_spells : Spaced Spells := Spells.spaced

theorem spaced_spells_field : Spaced SpellsField := by
  intro field front text back spelled blankFront blankBack
  cases spelled with
  | named labelled spelled =>
      have nothing : ∀ c ∈ ([] : List Char), c ∈ blanks := List.forall_mem_nil _
      have wider := SpellsField.named (labelled.spaced blankFront nothing)
        (spelled.spaced nothing blankBack)
      simpa using wider

theorem listed_rows {α : Type} {Part : α → List Char → Prop} (spaced : Spaced Part)
    {parts : List α} {texts : List (List Char)} (spelled : List.Forall₂ Part parts texts)
    (filled : texts ≠ []) (depth : Nat) :
    Listed Part parts
      ([','].intercalate (texts.map (newRow (depth + 1) ++ ·)) ++ newRow depth) := by
  induction spelled with
  | nil => contradiction
  | @cons part text _ _ first others induction =>
      cases others with
      | nil =>
          have row := spaced first (blank_new_row (depth + 1)) (blank_new_row depth)
          simpa [List.intercalate] using Listed.last row
      | cons second others =>
          have row : Part part (newRow (depth + 1) ++ text ++ []) :=
            spaced first (blank_new_row (depth + 1)) (List.forall_mem_nil _)
          have rows := Listed.more row (induction (List.cons_ne_nil _ _))
          simpa [List.intercalate] using rows

theorem exists_listed_enclose {α : Type} {Part : α → List Char → Prop} (spaced : Spaced Part)
    {parts : List α} {texts : List (List Char)} (spelled : List.Forall₂ Part parts texts)
    (opening closing : Char) (depth : Nat) :
    ∃ inner, Listed Part parts inner ∧
      enclose opening closing depth texts = opening :: inner ++ [closing] := by
  cases spelled with
  | nil => exact ⟨[], .none (by simp), rfl⟩
  | cons first others =>
      refine ⟨_, listed_rows spaced (.cons first others) (by simp) depth, ?_⟩
      simp [enclose]

mutual

theorem spells_write (depth : Nat) : (json : Json) → Spells json (json.write depth)
  | .text content => .text (quotes_escaped content.toList)
  | .boolean true => .yes
  | .boolean false => .no
  | .list items => by
      obtain ⟨inner, listed, same⟩ := exists_listed_enclose spaced_spells
        (spells_write_items (depth + 1) items) '[' ']' depth
      rw [write, same]
      exact .list listed
  | .record fields => by
      obtain ⟨inner, listed, same⟩ := exists_listed_enclose spaced_spells_field
        (spells_write_fields (depth + 1) fields) '\x7b' '\x7d' depth
      rw [write, same]
      exact .record listed

theorem spells_write_items (depth : Nat) :
    (items : List Json) → List.Forall₂ Spells items (writeItems depth items)
  | [] => .nil
  | item :: rest => .cons (spells_write depth item) (spells_write_items depth rest)

theorem spells_write_fields (depth : Nat) :
    (fields : List (String × Json)) → List.Forall₂ SpellsField fields (writeFields depth fields)
  | [] => .nil
  | (name, value) :: rest => by
      refine .cons ?_ (spells_write_fields depth rest)
      have label : Spells (.text name) (quotedText name) := .text (quotes_escaped name.toList)
      have spaced : Spells value ([' '] ++ write depth value ++ []) :=
        (spells_write depth value).spaced (by simp [blanks]) (List.forall_mem_nil _)
      simpa using SpellsField.named label spaced

end

end Json

/-- All that a report says, field by field. -/
def Plan.reported (plan : Plan) (configuration : Configuration) : Json :=
  .record
    [ ( "configuration",
        .record
          [ ("compiler", .text configuration.compiler.name),
            ("profile", .text configuration.profile.name),
            ("platform", .text configuration.platform.name),
            ("byte_order", .text configuration.byteOrder.name),
            ("output", .text configuration.output),
            ("src_dir", .text configuration.sourceDir),
            ("build_dir", .text configuration.buildDir),
            ("test_mode", .boolean configuration.testMode) ] ),
      ( "plan",
        .record
          [ ("compiler", .text plan.compiler),
            ("cflags", .text plan.cflags),
            ("ldflags", .text plan.ldflags),
            ("ldlibs", .text plan.ldlibs),
            ("deps", .list (plan.deps.map .text)),
            ("units",
              .list (plan.units.map fun unit =>
                .record [("object", .text unit.object), ("source", .text unit.source)])),
            ("target", .text plan.target),
            ("build_dir", .text plan.buildDir) ] ) ]

/-- A report is a JSON text and a line feed. -/
theorem Plan.exists_report_text (plan : Plan) (configuration : Configuration) :
    ∃ text : String, plan.report configuration = text ++ "\n" ∧
      (plan.reported configuration).Spells text.toList := by
  refine ⟨_, rfl, ?_⟩
  rw [Json.render, String.toList_ofList]
  exact Json.spells_write 0 (plan.reported configuration)

end MakePlan
