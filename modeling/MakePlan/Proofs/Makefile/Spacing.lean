import MakePlan.Proofs.Makefile.Statement

/-!
# Spacing inside a line

Parts of a line are kept apart by a gap. Which blanks it consists of, and how many, changes nothing
in what the line says. Only at the beginning of a line a tab is told from other blanks.
-/

namespace MakePlan

set_option autoImplicit false

open Text

def IsGap (gap : List Char) : Prop := gap ≠ [] ∧ AllBlank gap

variable {gap other front : List Char}

theorem IsGap.exists_cons (isGap : IsGap gap) :
    ∃ c more, gap = c :: more ∧ isBlank c = true ∧ AllBlank more := by
  cases gap with
  | nil => exact absurd rfl isGap.1
  | cons c more => exact ⟨c, more, rfl, List.forall_mem_cons.1 isGap.2⟩

theorem words_append_gap (isGap : IsGap gap) (front back : List Char) :
    words (front ++ (gap ++ back)) = words front ++ words back := by
  obtain ⟨c, more, rfl, blank, moreBlank⟩ := isGap.exists_cons
  rw [List.cons_append, words_append_blank blank, words_all_blank_append moreBlank]

theorem head?_gap_ne (isGap : IsGap gap) {c : Char} (ink : isBlank c = false) (back : List Char) :
    (gap ++ back).head? ≠ some c := by
  obtain ⟨first, more, rfl, blank, -⟩ := isGap.exists_cons
  intro same
  rw [List.cons_append, List.head?_cons, Option.some.injEq] at same
  rw [same, ink] at blank
  contradiction

namespace Statement

theorem take_while_append_gap (isGap : IsGap gap) (front back : List Char) :
    (front ++ (gap ++ back)).takeWhile isNameChar = front.takeWhile isNameChar := by
  obtain ⟨c, more, rfl, blank, -⟩ := isGap.exists_cons
  have stop := not_name_char_of_is_blank blank
  induction front with
  | nil => simp [stop]
  | cons head front induction =>
      cases headTaken : isNameChar head with
      | true => simpa [headTaken] using induction
      | false => simp [headTaken]

theorem drop_while_append_gap (isGap : IsGap gap) (front back : List Char) :
    (front ++ (gap ++ back)).dropWhile isNameChar =
      front.dropWhile isNameChar ++ (gap ++ back) := by
  obtain ⟨c, more, rfl, blank, -⟩ := isGap.exists_cons
  exact drop_while_append_stop (not_name_char_of_is_blank blank) front (more ++ back)

/-- An operator does not reach over a gap. -/
theorem after_operator?_append_gap (isGap : IsGap gap) (nonempty : front ≠ []) (back : List Char) :
    afterOperator? (front ++ (gap ++ back)) = (afterOperator? front).map (· ++ (gap ++ back)) := by
  obtain ⟨c, more, rfl, blank, -⟩ := isGap.exists_cons
  have noEquals : c ≠ '=' := by
    intro same
    rw [same] at blank
    contradiction
  cases front with
  | nil => contradiction
  | cons first others =>
      by_cases equals : first = '='
      · subst equals
        rfl
      · by_cases operator : first = ':' ∨ first = '+' ∨ first = '?'
        · cases others with
          | nil => simp [afterOperator?, noEquals]
          | cons second others =>
              by_cases secondEquals : second = '='
              · simp [afterOperator?, operator, secondEquals]
              · simp [afterOperator?, secondEquals]
        · simp [afterOperator?, operator]

theorem assignment?_gap (isGap : IsGap gap) (otherGap : IsGap other) (front back : List Char) :
    assignment? (front ++ (gap ++ back)) = assignment? (front ++ (other ++ back)) := by
  simp only [assignment?, take_while_append_gap isGap, take_while_append_gap otherGap,
    drop_while_append_gap isGap, drop_while_append_gap otherGap]
  split
  · rfl
  · change (afterOperator? (trimStart _)).map _ = (afterOperator? (trimStart _)).map _
    by_cases nameOnly : AllBlank (front.dropWhile isNameChar)
    · rw [trim_start_all_blank_append nameOnly, trim_start_all_blank_append isGap.2,
        trim_start_all_blank_append nameOnly, trim_start_all_blank_append otherGap.2]
    · have nonempty : trimStart (front.dropWhile isNameChar) ≠ [] :=
        fun noneLeft => nameOnly (trim_start_eq_nil_iff.1 noneLeft)
      rw [trim_start_append nameOnly, trim_start_append nameOnly,
        after_operator?_append_gap isGap nonempty, after_operator?_append_gap otherGap nonempty,
        Option.map_map, Option.map_map]
      simp only [Function.comp_def, words_append_gap isGap, words_append_gap otherGap]

theorem unmarked_of_is_blank {c : Char} (blank : isBlank c = true) : isRuleMark c = false := by
  have noColon : c ≠ ':' := by
    intro same
    rw [same] at blank
    contradiction
  have noEquals : c ≠ '=' := by
    intro same
    rw [same] at blank
    contradiction
  simp [isRuleMark, noColon, noEquals]

theorem exists_first_mark (marked : ¬ ∀ c ∈ front, isRuleMark c = false) :
    ∃ targets mark rest, front = targets ++ mark :: rest ∧
      (∀ c ∈ targets, isRuleMark c = false) ∧ isRuleMark mark = true := by
  induction front with
  | nil => exact absurd (by simp) marked
  | cons c front induction =>
      cases cMarked : isRuleMark c with
      | true => exact ⟨[], c, front, rfl, by simp, cMarked⟩
      | false =>
          have frontMarked : ¬ ∀ other ∈ front, isRuleMark other = false :=
            fun unmarked => marked (List.forall_mem_cons.2 ⟨cMarked, unmarked⟩)
          obtain ⟨targets, mark, rest, frontEq, unmarked, isMark⟩ := induction frontMarked
          exact ⟨c :: targets, mark, rest, by rw [frontEq]; rfl,
            List.forall_mem_cons.2 ⟨cMarked, unmarked⟩, isMark⟩

theorem head?_equals_gap (isGap : IsGap gap) (front back : List Char) :
    (front ++ (gap ++ back)).head? = some '=' ↔ front.head? = some '=' := by
  cases front with
  | nil => simpa using head?_gap_ne isGap (c := '=') (by decide) back
  | cons first front => rfl

/-- The colon that ends the targets is the same, whether it stands before the gap or behind it. -/
theorem rule?_gap (isGap : IsGap gap) (otherGap : IsGap other) (nonempty : front ≠ [])
    (back : List Char) : rule? (front ++ (gap ++ back)) = rule? (front ++ (other ++ back)) := by
  by_cases unmarked : ∀ c ∈ front, isRuleMark c = false
  · have frontPassed : ∀ c ∈ front, (!isRuleMark c) = true := by
      intro c inside
      simp [unmarked c inside]
    have gapPassed : ∀ blanks, IsGap blanks → ∀ c ∈ blanks, (!isRuleMark c) = true := by
      intro blanks gapBlanks c inside
      simp [unmarked_of_is_blank (gapBlanks.2 c inside)]
    simp only [rule?, List.takeWhile_append_of_pos frontPassed,
      List.takeWhile_append_of_pos (gapPassed gap isGap),
      List.takeWhile_append_of_pos (gapPassed other otherGap),
      List.dropWhile_append_of_pos frontPassed,
      List.dropWhile_append_of_pos (gapPassed gap isGap),
      List.dropWhile_append_of_pos (gapPassed other otherGap), words_append_gap isGap,
      words_append_gap otherGap, List.append_eq_nil_iff, nonempty, false_and]
  · obtain ⟨targets, mark, rest, rfl, targetsUnmarked, isMark⟩ := exists_first_mark unmarked
    have stop : (!isRuleMark mark) = false := by simp [isMark]
    have allTargets : ∀ c ∈ targets, (!isRuleMark c) = true := by
      intro c inside
      simp [targetsUnmarked c inside]
    simp only [rule?, List.append_assoc, List.cons_append, take_while_append_all stop allTargets,
      drop_while_append_all stop allTargets]
    by_cases colon : mark = ':'
    · subst colon
      simp only [head?_equals_gap isGap, head?_equals_gap otherGap, words_append_gap isGap,
        words_append_gap otherGap]
    · simp [colon]

theorem of_plain_line_gap (isGap : IsGap gap) (otherGap : IsGap other) (nonempty : front ≠ [])
    (back : List Char) :
    ofPlainLine (front ++ (gap ++ back)) = ofPlainLine (front ++ (other ++ back)) := by
  have sameHead : (front ++ (gap ++ back)).head? = (front ++ (other ++ back)).head? := by
    cases front with
    | nil => contradiction
    | cons first front => rfl
  simp only [ofPlainLine, sameHead, List.append_eq_nil_iff, nonempty, false_and,
    assignment?_gap isGap otherGap, rule?_gap isGap otherGap nonempty]

/-- A line that does not begin with a tab says the same, whichever blanks stand at a place where
there are some. -/
theorem of_line_gap (isGap : IsGap gap) (otherGap : IsGap other) (back : List Char)
    (noTab : (front ++ gap).head? ≠ some '\t')
    (otherNoTab : (front ++ other).head? ≠ some '\t') :
    ofLine (front ++ (gap ++ back)) = ofLine (front ++ (other ++ back)) := by
  have stillNoTab : ∀ blanks, IsGap blanks → (front ++ blanks).head? ≠ some '\t' →
      (front ++ (blanks ++ back)).head? ≠ some '\t' := by
    intro blanks gapBlanks blanksNoTab
    rw [← List.append_assoc, List.head?_append, Option.or_of_isSome (by simp [gapBlanks.1])]
    exact blanksNoTab
  rw [of_line_of_not_tab (stillNoTab gap isGap noTab),
    of_line_of_not_tab (stillNoTab other otherGap otherNoTab)]
  by_cases frontBlank : AllBlank front
  · rw [trim_all_blank_append frontBlank, trim_all_blank_append isGap.2,
      trim_all_blank_append frontBlank, trim_all_blank_append otherGap.2]
  · by_cases backBlank : AllBlank back
    · have allBlank : ∀ blanks, IsGap blanks → AllBlank (blanks ++ back) :=
        fun blanks gapBlanks => List.forall_mem_append.2 ⟨gapBlanks.2, backBlank⟩
      rw [trim_append_all_blank front (allBlank gap isGap),
        trim_append_all_blank front (allBlank other otherGap)]
    · have nonempty : trimStart front ≠ [] :=
        fun noneLeft => frontBlank (trim_start_eq_nil_iff.1 noneLeft)
      rw [trim_append frontBlank backBlank, trim_append frontBlank backBlank]
      exact of_plain_line_gap isGap otherGap nonempty _

end Statement

end MakePlan
