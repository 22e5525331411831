import Mathlib.Tactic.SplitIfs

/-!
# The order of bytes

Texts that compare by code point compare in the same way by the bytes of their UTF-8 encodings. A
longer encoding has a larger first byte, and encodings of one length have the digits of their code
points.
-/

namespace MakePlan.Text

set_option autoImplicit false

/-- The lists part before either ends, and the first goes on with the smaller byte. -/
def PartsBelow (left right : List UInt8) : Prop :=
  ∃ shared lower higher leftRest rightRest,
    left = shared ++ lower :: leftRest ∧ right = shared ++ higher :: rightRest ∧ lower < higher

/-- Nothing after the place where two lists part changes their order. -/
theorem PartsBelow.append_lt {left right : List UInt8} (below : PartsBelow left right)
    (leftRest rightRest : List UInt8) : left ++ leftRest < right ++ rightRest := by
  obtain ⟨shared, lower, higher, leftMore, rightMore, rfl, rfl, less⟩ := below
  rw [List.append_assoc, List.append_assoc]
  exact List.append_left_lt (List.cons_lt_cons_iff.2 (.inl less))

theorem parts_below_cons_iff {lower higher : UInt8} {left right : List UInt8} :
    PartsBelow (lower :: left) (higher :: right) ↔
      lower < higher ∨ lower = higher ∧ PartsBelow left right := by
  constructor
  · rintro ⟨shared, first, second, leftRest, rightRest, leftEq, rightEq, less⟩
    cases shared with
    | nil =>
        obtain ⟨rfl, -⟩ := List.cons.inj leftEq
        obtain ⟨rfl, -⟩ := List.cons.inj rightEq
        exact .inl less
    | cons byte shared =>
        obtain ⟨rfl, rfl⟩ := List.cons.inj leftEq
        obtain ⟨rfl, rfl⟩ := List.cons.inj rightEq
        exact .inr ⟨rfl, shared, first, second, leftRest, rightRest, rfl, rfl, less⟩
  · rintro (less | ⟨rfl, shared, first, second, leftRest, rightRest, rfl, rfl, less⟩)
    · exact ⟨[], lower, higher, left, right, rfl, rfl, less⟩
    · exact ⟨lower :: shared, first, second, leftRest, rightRest, rfl, rfl, less⟩

theorem of_nat_lt_iff {left right : Nat} (leftByte : left < 256) (rightByte : right < 256) :
    UInt8.ofNat left < UInt8.ofNat right ↔ left < right :=
  UInt8.ofNat_lt_iff_lt leftByte rightByte

theorem of_nat_eq_iff {left right : Nat} (leftByte : left < 256) (rightByte : right < 256) :
    UInt8.ofNat left = UInt8.ofNat right ↔ left = right := by
  rw [← UInt8.toNat_inj, UInt8.toNat_ofNat_of_lt' leftByte, UInt8.toNat_ofNat_of_lt' rightByte]

theorem parts_below_utf8_encode_char {c d : Char} (less : c < d) :
    PartsBelow (String.utf8EncodeChar c) (String.utf8EncodeChar d) := by
  have values : c.val.toNat < d.val.toNat := less
  have bound : d.val.toNat < 0x110000 := by
    rcases d.valid with low | high
    · exact Nat.lt_trans low (by decide)
    · exact high.2
  simp only [String.utf8EncodeChar]
  generalize c.val.toNat = m at values
  generalize d.val.toNat = n at values bound
  -- The digits to base 64, as far as they are written as quotients by different powers.
  have mThird : m / 64 / 64 = m / 4096 := Nat.div_div_eq_div_mul m 64 64
  have nThird : n / 64 / 64 = n / 4096 := Nat.div_div_eq_div_mul n 64 64
  have mFourth : m / 4096 / 64 = m / 262144 := Nat.div_div_eq_div_mul m 4096 64
  have nFourth : n / 4096 / 64 = n / 262144 := Nat.div_div_eq_div_mul n 4096 64
  have mTop : m / 262144 % 8 = m / 262144 := Nat.mod_eq_of_lt (by omega)
  have nTop : n / 262144 % 8 = n / 262144 := Nat.mod_eq_of_lt (by omega)
  -- One case for each pair of lengths, of which the first is not the greater one.
  split_ifs
  all_goals try omega
  all_goals simp (disch := omega) only [parts_below_cons_iff, of_nat_lt_iff, of_nat_eq_iff]
  all_goals omega

theorem flat_map_utf8_encode_char_lt {left right : List Char} (less : left < right) :
    left.flatMap String.utf8EncodeChar < right.flatMap String.utf8EncodeChar := by
  induction left generalizing right with
  | nil =>
      cases right with
      | nil => exact absurd less (List.lt_irrefl _)
      | cons d right =>
          cases encoded : String.utf8EncodeChar d with
          | nil => exact absurd encoded String.utf8EncodeChar_ne_nil
          | cons byte rest =>
              rw [List.flatMap_nil, List.flatMap_cons, encoded]
              exact List.nil_lt_cons _ _
  | cons c left induction =>
      cases right with
      | nil => exact absurd less (List.not_lt_nil _)
      | cons d right =>
          rw [List.flatMap_cons, List.flatMap_cons]
          rcases List.cons_lt_cons_iff.1 less with here | ⟨rfl, later⟩
          · exact (parts_below_utf8_encode_char here).append_lt _ _
          · exact List.append_left_lt (induction later)

theorem to_utf8_to_list (text : String) :
    text.toUTF8.data.toList = text.toList.flatMap String.utf8EncodeChar := by
  have encoded : text.toUTF8 = text.toList.utf8Encode := by
    rw [String.toUTF8, ← String.toByteArray_ofList, String.ofList_toList]
  rw [encoded, List.utf8Encode, List.toList_data_toByteArray]

theorem to_utf8_lt_iff {left right : String} :
    left.toUTF8.data.toList < right.toUTF8.data.toList ↔ left < right := by
  rw [to_utf8_to_list, to_utf8_to_list]
  constructor
  · intro less
    refine Decidable.byContradiction fun notLess => ?_
    have notGreater : ¬ right < left := fun greater =>
      List.lt_asymm less (flat_map_utf8_encode_char_lt greater)
    have same : left = right :=
      String.le_antisymm (String.not_lt.1 notGreater) (String.not_lt.1 notLess)
    subst same
    exact List.lt_irrefl _ less
  · exact flat_map_utf8_encode_char_lt

end MakePlan.Text
