/-!
# Blank characters

The characters that separate words: the 25 members of the property `White_Space`, of which core's
`Char.isWhitespace` knows only four.
-/

namespace MakePlan.Text

set_option autoImplicit false

/-- Membership in `White_Space`, by code point. -/
def isBlank (c : Char) : Bool :=
  let n := c.toNat
  (9 ≤ n && n ≤ 13) || n == 0x20 || n == 0x85 || n == 0xA0 || n == 0x1680 ||
    (0x2000 ≤ n && n ≤ 0x200A) || n == 0x2028 || n == 0x2029 || n == 0x202F || n == 0x205F ||
    n == 0x3000

@[simp] theorem is_blank_space : isBlank ' ' = true := by decide

@[simp] theorem is_blank_tab : isBlank '\t' = true := by decide

@[simp] theorem is_blank_newline : isBlank '\n' = true := by decide

@[simp] theorem is_blank_backslash : isBlank '\\' = false := by decide

end MakePlan.Text
