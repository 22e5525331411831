import MakePlan.Text.Blank

/-!
# Trimming and words

Texts are lists of characters here. `words` cuts at blanks and `unwords` joins with single spaces;
trimming removes blanks at the ends.
-/

namespace MakePlan.Text

set_option autoImplicit false

def trimStart (text : List Char) : List Char := text.dropWhile isBlank

def trimEnd : List Char → List Char
  | [] => []
  | c :: rest =>
      match trimEnd rest with
      | [] => if isBlank c then [] else [c]
      | kept => c :: kept

def trim (text : List Char) : List Char := trimStart (trimEnd text)

/-- The stretches between blanks, in order; two neighbouring blanks have an empty one between. -/
def pieces : List Char → List (List Char)
  | [] => [[]]
  | c :: rest =>
      if isBlank c then [] :: pieces rest
      else
        match pieces rest with
        | [] => [[c]]
        | first :: others => (c :: first) :: others

def words (text : List Char) : List (List Char) := (pieces text).filter (!·.isEmpty)

def unwords : List (List Char) → List Char
  | [] => []
  | [last] => last
  | first :: others => first ++ ' ' :: unwords others

def IsWord (text : List Char) : Prop := text ≠ [] ∧ ∀ c ∈ text, isBlank c = false

theorem pieces_ne_nil (text : List Char) : pieces text ≠ [] := by
  cases text with
  | nil => simp [pieces]
  | cons c rest =>
      simp only [pieces]
      split
      · simp
      · split <;> simp

theorem pieces_append_blank {c : Char} (blank : isBlank c = true) (before after : List Char) :
    pieces (before ++ c :: after) = pieces before ++ pieces after := by
  induction before with
  | nil => simp [pieces, blank]
  | cons head before induction =>
      cases headBlank : isBlank head with
      | true => simp [pieces, headBlank, induction]
      | false =>
          simp only [List.cons_append, pieces, headBlank, induction]
          cases found : pieces before with
          | nil => exact absurd found (pieces_ne_nil before)
          | cons first others => simp

/-- A blank ends the words on its left and begins those on its right. -/
theorem words_append_blank {c : Char} (blank : isBlank c = true) (before after : List Char) :
    words (before ++ c :: after) = words before ++ words after := by
  rw [words, pieces_append_blank blank, List.filter_append]
  rfl

end MakePlan.Text
