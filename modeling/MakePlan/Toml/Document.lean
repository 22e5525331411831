import MakePlan.Toml.Literal
import MakePlan.Toml.Table

/-!
# Documents

The grammar of TOML over tokens: values, lines, sections, and the whole document as a table.
-/

namespace MakePlan.Toml

set_option autoImplicit false

/-- What is left of some tokens after at least one of them. -/
abbrev Rest (tokens : List Token) := { rest : List Token // rest.length < tokens.length }

def skipBlanks : List Token → List Token
  | .blanks _ :: rest => rest
  | tokens => tokens

def skipLines : List Token → List Token
  | .blanks _ :: rest => skipLines rest
  | .newline :: rest => skipLines rest
  | tokens => tokens

theorem length_skip_blanks_le (tokens : List Token) :
    (skipBlanks tokens).length ≤ tokens.length := by
  unfold skipBlanks
  split <;> simp

theorem length_skip_lines_le (tokens : List Token) :
    (skipLines tokens).length ≤ tokens.length := by
  fun_induction skipLines tokens with
  | case1 _ rest induction => exact Nat.le_succ_of_le induction
  | case2 rest induction => exact Nat.le_succ_of_le induction
  | case3 => exact Nat.le_refl _

/-- Skips what may stand around an equals sign: blanks, and inside braces line ends too. -/
def skipGap (inBraces : Bool) (tokens : List Token) : List Token :=
  if inBraces then skipLines tokens else skipBlanks tokens

theorem length_skip_gap_le (inBraces : Bool) (tokens : List Token) :
    (skipGap inBraces tokens).length ≤ tokens.length := by
  cases inBraces
  · exact length_skip_blanks_le tokens
  · exact length_skip_lines_le tokens

def isBareKeyChar (c : Char) : Bool := c.isAlphanum || c = '_' || c = '-'

def Token.keyPart? : Token → Option String
  | .atom run => if run.all isBareKeyChar then some (String.ofList run) else none
  | .quoted content false => some content
  | _ => none

def keyLimit : Nat := 80

/-- A key of at most `limit` parts: the parts before the last, and the last. Its dots stand on one
line with it. -/
def takeKey? (limit : Nat) (tokens : List Token) :
    Option ((List String × String) × Rest tokens) :=
  match limit with
  | 0 => none
  | limit + 1 =>
      match started : skipBlanks tokens with
      | [] => none
      | first :: rest =>
          have shorter : rest.length < tokens.length := by
            have := length_skip_blanks_le tokens
            simp only [started, List.length_cons] at this
            omega
          match first.keyPart? with
          | none => none
          | some part =>
              match followed : skipBlanks rest with
              | .dot :: further =>
                  have furtherShorter : further.length < rest.length := by
                    have := length_skip_blanks_le rest
                    simp only [followed, List.length_cons] at this
                    omega
                  match takeKey? limit further with
                  | none => none
                  | some ((path, key), ⟨left, leftShorter⟩) =>
                      some ((part :: path, key), ⟨left, by omega⟩)
              | _ => some (([], part), ⟨rest, shorter⟩)

/-- The text of a literal: atoms and dots one after another, with the blanks that stand before an
atom. -/
def takeLiteral : List Token → List Char × List Token
  | .atom run :: rest => (run ++ (takeLiteral rest).1, (takeLiteral rest).2)
  | .dot :: rest => ('.' :: (takeLiteral rest).1, (takeLiteral rest).2)
  | .blanks run :: .atom word :: rest =>
      (run ++ word ++ (takeLiteral rest).1, (takeLiteral rest).2)
  | tokens => ([], tokens)

theorem length_take_literal_le (tokens : List Token) :
    (takeLiteral tokens).2.length ≤ tokens.length := by
  fun_induction takeLiteral tokens with
  | case1 run rest induction => exact Nat.le_succ_of_le induction
  | case2 rest induction => exact Nat.le_succ_of_le induction
  | case3 run word rest induction => exact Nat.le_succ_of_le (Nat.le_succ_of_le induction)
  | case4 => exact Nat.le_refl _

theorem length_take_literal_lt (run : List Char) (rest : List Token) :
    (takeLiteral (.atom run :: rest)).2.length < (Token.atom run :: rest).length :=
  Nat.lt_succ_of_le (length_take_literal_le rest)

mutual

/-- A value. Brackets and braces may be nested `depth` deep. -/
def takeValue? (depth : Nat) (tokens : List Token) : Option (Node × Rest tokens) :=
  match tokens with
  | .quoted content _ :: rest =>
      some (.scalar (.text content), ⟨rest, by simp⟩)
  | .openBracket :: rest =>
      if depth = 0 then none
      else
        match takeItems? (depth - 1) rest with
        | none => none
        | some (items, ⟨left, shorter⟩) =>
            some (.array items, ⟨left, by simp only [List.length_cons]; omega⟩)
  | .openBrace :: rest =>
      if depth = 0 then none
      else
        match takeFields? (depth - 1) rest with
        | none => none
        | some (entries, ⟨left, shorter⟩) =>
            (Table.fill ⟨.inline, []⟩ entries).map fun table =>
              (table.toNode, ⟨left, by simp only [List.length_cons]; omega⟩)
  | .atom run :: rest =>
      (Scalar.ofLiteral? (takeLiteral (.atom run :: rest)).1).map fun scalar =>
        (.scalar scalar, ⟨(takeLiteral (.atom run :: rest)).2, length_take_literal_lt run rest⟩)
  | _ => none
termination_by 3 * tokens.length

def takeItems? (depth : Nat) (tokens : List Token) : Option (List Node × Rest tokens) :=
  have bound := length_skip_lines_le tokens
  match started : skipLines tokens with
  | .closeBracket :: rest =>
      some ([], ⟨rest, by simp only [started, List.length_cons] at bound; omega⟩)
  | _ =>
      match takeValue? depth (skipLines tokens) with
      | none => none
      | some (item, ⟨rest, shorter⟩) =>
          have nextBound := length_skip_lines_le rest
          match followed : skipLines rest with
          | .comma :: further =>
              have furtherShorter : further.length < tokens.length := by
                simp only [followed, List.length_cons] at nextBound
                omega
              match takeItems? depth further with
              | none => none
              | some (items, ⟨left, leftShorter⟩) => some (item :: items, ⟨left, by omega⟩)
          | .closeBracket :: left =>
              some ([item], ⟨left, by simp only [followed, List.length_cons] at nextBound; omega⟩)
          | _ => none
termination_by 3 * tokens.length + 1

def takeFields? (depth : Nat) (tokens : List Token) : Option (List Entry × Rest tokens) :=
  have bound := length_skip_lines_le tokens
  match started : skipLines tokens with
  | .closeBrace :: rest =>
      some ([], ⟨rest, by simp only [started, List.length_cons] at bound; omega⟩)
  | _ =>
      match takePair? true depth (skipLines tokens) with
      | none => none
      | some (entry, ⟨rest, shorter⟩) =>
          have nextBound := length_skip_lines_le rest
          match followed : skipLines rest with
          | .comma :: further =>
              have furtherShorter : further.length < tokens.length := by
                simp only [followed, List.length_cons] at nextBound
                omega
              match takeFields? depth further with
              | none => none
              | some (entries, ⟨left, leftShorter⟩) => some (entry :: entries, ⟨left, by omega⟩)
          | .closeBrace :: left =>
              some ([entry], ⟨left, by simp only [followed, List.length_cons] at nextBound; omega⟩)
          | _ => none
termination_by 3 * tokens.length + 2

def takePair? (inBraces : Bool) (depth : Nat) (tokens : List Token) :
    Option (Entry × Rest tokens) :=
  match takeKey? keyLimit tokens with
  | none => none
  | some ((path, key), ⟨rest, shorter⟩) =>
      have bound := length_skip_gap_le inBraces rest
      match signed : skipGap inBraces rest with
      | .equals :: further =>
          have valueBound : (skipGap inBraces further).length < tokens.length := by
            have := length_skip_gap_le inBraces further
            simp only [signed, List.length_cons] at bound
            omega
          match takeValue? depth (skipGap inBraces further) with
          | none => none
          | some (value, ⟨left, leftShorter⟩) =>
              some (⟨path, key, value⟩, ⟨left, by omega⟩)
      | _ => none
termination_by 3 * tokens.length + 1

end

def nestingLimit : Nat := 80

def endLine? (tokens : List Token) : Option (List Token) :=
  match skipBlanks tokens with
  | [] => some []
  | .newline :: rest => some rest
  | _ => none

theorem length_end_line_le {tokens rest : List Token} (ended : endLine? tokens = some rest) :
    rest.length ≤ tokens.length := by
  have bound := length_skip_blanks_le tokens
  unfold endLine? at ended
  split at ended
  · simp only [Option.some.injEq] at ended
    simp [← ended]
  · rename_i left shape
    simp only [Option.some.injEq] at ended
    simp only [shape, List.length_cons] at bound
    rw [← ended]
    omega
  · simp at ended

inductive Line
  | heading (heading : Heading)
  | entry (entry : Entry)

def takeHeading? (tokens : List Token) : Option (Heading × Rest tokens) :=
  match tokens with
  | .openBracket :: .openBracket :: rest =>
      match takeKey? keyLimit rest with
      | none => none
      | some ((path, key), ⟨left, shorter⟩) =>
          have bound := length_skip_blanks_le left
          match closed : skipBlanks left with
          | .closeBracket :: .closeBracket :: left =>
              some (.element path key,
                ⟨left, by simp only [closed, List.length_cons] at *; omega⟩)
          | _ => none
  | .openBracket :: rest =>
      match takeKey? keyLimit rest with
      | none => none
      | some ((path, key), ⟨left, shorter⟩) =>
          have bound := length_skip_blanks_le left
          match closed : skipBlanks left with
          | .closeBracket :: left =>
              some (.table path key,
                ⟨left, by simp only [closed, List.length_cons] at *; omega⟩)
          | _ => none
  | _ => none

def takeLine? (tokens : List Token) : Option (Line × Rest tokens) :=
  if tokens.head? = some .openBracket then
    (takeHeading? tokens).map fun (heading, rest) => (.heading heading, rest)
  else (takePair? false nestingLimit tokens).map fun (entry, rest) => (.entry entry, rest)

def takeLines? (tokens : List Token) : Option (List Line) :=
  have bound := length_skip_lines_le tokens
  match skipLines tokens with
  | [] => some []
  | _ =>
      match takeLine? (skipLines tokens) with
      | none => none
      | some (line, ⟨rest, shorter⟩) =>
          match ended : endLine? rest with
          | none => none
          | some left =>
              have leftShorter : left.length < tokens.length := by
                have := length_end_line_le ended
                omega
              (takeLines? left).map (line :: ·)
termination_by tokens.length

def sections : List Line → List Entry × List Section
  | [] => ([], [])
  | .entry entry :: rest =>
      let (entries, others) := sections rest
      (entry :: entries, others)
  | .heading heading :: rest =>
      let (entries, others) := sections rest
      ([], ⟨heading, entries⟩ :: others)

def parse? (document : String) : Option (List (String × Value)) := do
  let tokens ← tokenize document.toList
  let lines ← takeLines? tokens
  let (entries, others) := sections lines
  let root ← Table.fill ⟨.header, []⟩ entries
  let root ← others.foldlM Table.place root
  some (entryValues root.entries)

end MakePlan.Toml
