/-!
# Suffixes

Taking a suffix off a text. A text that does not end in the suffix has no stem.
-/

namespace MakePlan.Text

set_option autoImplicit false

def stem? (suffix text : String) : Option String :=
  if suffix.toList.isSuffixOf text.toList then
    some (String.ofList (text.toList.take (text.toList.length - suffix.toList.length)))
  else none

/-- The stem is the one text that the suffix completes. -/
theorem stem?_eq_some_iff {suffix text stem : String} :
    stem? suffix text = some stem ↔ text = stem ++ suffix := by
  unfold stem?
  constructor
  · intro found
    split at found
    · rename_i ends
      obtain ⟨front, joined⟩ := List.isSuffixOf_iff_suffix.1 ends
      simp only [Option.some.injEq] at found
      apply String.toList_inj.1
      rw [← found, String.toList_append, ← joined]
      simp
    · simp at found
  · intro joined
    rw [joined, String.toList_append,
      if_pos (List.isSuffixOf_iff_suffix.2 (List.suffix_append _ _))]
    simp

end MakePlan.Text
