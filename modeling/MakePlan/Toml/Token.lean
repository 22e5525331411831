/-!
# Tokens of a TOML document

`tokenize` cuts a document into tokens. Quoted strings are decoded here, comments disappear, and the
parts of unquoted keys and literals are left for the reader to judge.
-/

namespace MakePlan.Toml

set_option autoImplicit false

inductive Token
  | blanks (run : List Char)
  | newline
  | dot
  | equals
  | comma
  | openBracket
  | closeBracket
  | openBrace
  | closeBrace
  /-- A run of other characters, of which the first is no quote. -/
  | atom (run : List Char)
  /-- A quoted string; one in triple quotes is no key. -/
  | quoted (content : String) (triple : Bool)
  deriving DecidableEq, Repr

def isSpace (c : Char) : Bool := c = ' ' || c = '\t'

/-- The characters that end an unquoted run. Quotes, which begin a string, end no run. -/
def isDelimiter (c : Char) : Bool := isSpace c || "\r\n.=,[]\x7b\x7d#".toList.contains c

def isPrintable (c : Char) : Bool := (0x20 ≤ c.toNat && c.toNat ≠ 0x7F) || c = '\t'

def isLineEnd (c : Char) : Bool := c = '\n' || c = '\r'

def isGap (c : Char) : Bool := isSpace c || isLineEnd c

def hexDigit? (c : Char) : Option Nat :=
  if '0' ≤ c ∧ c ≤ '9' then some (c.toNat - '0'.toNat)
  else if 'a' ≤ c ∧ c ≤ 'f' then some (c.toNat - 'a'.toNat + 10)
  else if 'A' ≤ c ∧ c ≤ 'F' then some (c.toNat - 'A'.toNat + 10)
  else none

def codePoint? (width : Nat) (text : List Char) : Option Char := do
  let digits ← (text.take width).mapM hexDigit?
  let value := digits.foldl (fun value digit => 16 * value + digit) 0
  guard (digits.length = width ∧ value.isValidChar)
  some (Char.ofNat value)

/-- The character that an escape stands for, by the letter after the backslash and the text after
that, with the number of characters that it takes from this text. -/
def escape? (letter : Char) (text : List Char) : Option (Char × Nat) :=
  match letter with
  | '"' => some ('"', 0)
  | '\\' => some ('\\', 0)
  | 'b' => some ('\x08', 0)
  | 't' => some ('\t', 0)
  | 'n' => some ('\n', 0)
  | 'f' => some ('\x0c', 0)
  | 'r' => some ('\r', 0)
  | 'e' => some ('\x1b', 0)
  | 'x' => (codePoint? 2 text).map (·, 2)
  | 'u' => (codePoint? 4 text).map (·, 4)
  | 'U' => (codePoint? 8 text).map (·, 8)
  | _ => none

/-- The text after an escaped line end: only spaces may stand before the end of the line, and all
blank lines and indentation after it are skipped. -/
def afterLineEnd? (text : List Char) : Option (List Char) :=
  match text.dropWhile isSpace with
  | [] => none
  | c :: rest => if isLineEnd c then some (rest.dropWhile isGap) else none

/-- Where a string in triple quotes ends at the current quote, the number of quotes that still
belong to its content: up to two may stand before the three that close it. -/
def closing? (quote : Char) (rest : List Char) : Option Nat :=
  let more := (rest.takeWhile (· = quote)).length
  if more < 2 then none else some (min (more - 2) 2)

def skipLineEnd (text : List Char) : List Char :=
  match text with
  | '\n' :: rest => rest
  | '\r' :: rest => rest.drop 1
  | _ => text

def carriageReturnsPaired : List Char → Bool
  | [] => true
  | [c] => c ≠ '\r'
  | c :: next :: rest => (c ≠ '\r' || next = '\n') && carriageReturnsPaired (next :: rest)

def punctuation? (c : Char) : Option Token :=
  match c with
  | '\n' => some .newline
  | '.' => some .dot
  | '=' => some .equals
  | ',' => some .comma
  | '[' => some .openBracket
  | ']' => some .closeBracket
  | '\x7b' => some .openBrace
  | '\x7d' => some .closeBrace
  | _ => none

theorem length_drop_while_le (p : Char → Bool) (text : List Char) :
    (text.dropWhile p).length ≤ text.length :=
  (List.dropWhile_suffix p).length_le

theorem length_skip_line_end_le (text : List Char) : (skipLineEnd text).length ≤ text.length := by
  unfold skipLineEnd
  split
  · simp
  · simp only [List.length_cons, List.length_drop]
    omega
  · exact Nat.le_refl _

theorem length_after_line_end {text rest : List Char} (found : afterLineEnd? text = some rest) :
    rest.length ≤ text.length := by
  have spaces := length_drop_while_le isSpace text
  unfold afterLineEnd? at found
  split at found
  · simp at found
  · rename_i c tail shape
    split at found
    · have gap := length_drop_while_le isGap tail
      simp only [Option.some.injEq] at found
      simp only [shape, List.length_cons] at spaces
      rw [← found]
      omega
    · simp at found

mutual

/-- The tokens of a text that begins outside quotes. A comment reaches to the end of its line. -/
def tokensOutside (text : List Char) : Option (List Token) :=
  match text with
  | [] => some []
  | c :: rest =>
      if c = '\r' then tokensOutside rest
      else if c = '#' then
        if (rest.dropWhile isPrintable).head?.all isLineEnd then
          tokensOutside (rest.dropWhile isPrintable)
        else none
      else if c = '"' ∨ c = '\'' then
        if rest.take 2 = [c, c] then tokensInBlock c [] (skipLineEnd (rest.drop 2))
        else tokensInString c [] rest
      else if isSpace c then
        (Token.blanks (c :: rest.takeWhile isSpace) :: ·) <$> tokensOutside (rest.dropWhile isSpace)
      else
        match punctuation? c with
        | some token => (token :: ·) <$> tokensOutside rest
        | none =>
            (Token.atom (c :: rest.takeWhile (!isDelimiter ·)) :: ·) <$>
              tokensOutside (rest.dropWhile (!isDelimiter ·))
termination_by text.length
decreasing_by
  all_goals simp_wf
  all_goals
    have := length_skip_line_end_le (rest.drop 2)
    have := length_drop_while_le isPrintable rest
    have := length_drop_while_le isSpace rest
    have := length_drop_while_le (!isDelimiter ·) rest
    simp only [List.length_drop] at *
    omega

/-- The tokens of a text that begins inside a string on one line, after content in reverse. Only
double quotes know escapes. -/
def tokensInString (quote : Char) (content : List Char) (text : List Char) : Option (List Token) :=
  match text with
  | [] => none
  | c :: rest =>
      if c = quote then
        (Token.quoted (String.ofList content.reverse) false :: ·) <$> tokensOutside rest
      else if c = '\\' ∧ quote = '"' then
        match rest with
        | [] => none
        | letter :: rest =>
            match escape? letter rest with
            | none => none
            | some (meant, taken) => tokensInString quote (meant :: content) (rest.drop taken)
      else if isPrintable c then tokensInString quote (c :: content) rest
      else none
termination_by text.length
decreasing_by
  all_goals simp_wf
  all_goals omega

def tokensInBlock (quote : Char) (content : List Char) (text : List Char) : Option (List Token) :=
  match text with
  | [] => none
  | c :: rest =>
      if c = quote then
        match closing? quote rest with
        | none => tokensInBlock quote (c :: content) rest
        | some extra =>
            (Token.quoted (String.ofList (content.reverse ++ List.replicate extra quote)) true :: ·)
              <$> tokensOutside (rest.drop (2 + extra))
      else if c = '\\' ∧ quote = '"' then
        match rest with
        | [] => none
        | letter :: following =>
            if isGap letter then
              match _skipped : afterLineEnd? (letter :: following) with
              | none => none
              | some following => tokensInBlock quote content following
            else
              match escape? letter following with
              | none => none
              | some (meant, taken) => tokensInBlock quote (meant :: content) (following.drop taken)
      else if isPrintable c || isLineEnd c then tokensInBlock quote (c :: content) rest
      else none
termination_by text.length
decreasing_by
  all_goals simp_wf
  all_goals try omega
  all_goals
    have := length_after_line_end _skipped
    simp only [List.length_cons] at *
    omega

end

/-- The tokens of a document. A byte order mark at its start is no part of it, and a carriage return
stands only before a line feed. -/
def tokenize (document : List Char) : Option (List Token) :=
  let text := if document.head? = some '\uFEFF' then document.drop 1 else document
  if carriageReturnsPaired text then tokensOutside text else none

end MakePlan.Toml
