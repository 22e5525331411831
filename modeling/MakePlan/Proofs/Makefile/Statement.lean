import MakePlan.Makefile.Reader
import MakePlan.Proofs.Text.Words

/-!
# What single lines say

An assignment and a rule are recognised by their parts. Which blanks stand between the parts, and
how many stand at the end of the line, plays no role.
-/

namespace MakePlan.Statement

set_option autoImplicit false

open Text

theorem name_char_range {c : Char} (nameChar : isNameChar c = true) :
    45 ≤ c.toNat ∧ c.toNat ≤ 122 := by
  delta isNameChar Char.isAlphanum Char.isAlpha Char.isUpper Char.isLower Char.isDigit at nameChar
  simp only [Bool.or_eq_true, Bool.and_eq_true, decide_eq_true_eq, UInt32.le_iff_toNat_le,
    ge_iff_le] at nameChar
  rcases nameChar with ((((upper | lower) | digit) | underscore) | dot) | hyphen
  · exact ⟨Nat.le_trans (by decide) upper.1, Nat.le_trans upper.2 (by decide)⟩
  · exact ⟨Nat.le_trans (by decide) lower.1, Nat.le_trans lower.2 (by decide)⟩
  · exact ⟨Nat.le_trans (by decide) digit.1, Nat.le_trans digit.2 (by decide)⟩
  · subst underscore; decide
  · subst dot; decide
  · subst hyphen; decide

theorem is_blank_of_name_char {c : Char} (nameChar : isNameChar c = true) : isBlank c = false := by
  have range := name_char_range nameChar
  simp [isBlank]
  omega

theorem not_name_char_of_is_blank {c : Char} (blank : isBlank c = true) : isNameChar c = false := by
  cases found : isNameChar c with
  | false => rfl
  | true =>
      rw [is_blank_of_name_char found] at blank
      contradiction

theorem drop_while_append_stop {p : Char → Bool} {c : Char} (stop : p c = false)
    (front rest : List Char) :
    (front ++ c :: rest).dropWhile p = front.dropWhile p ++ c :: rest := by
  induction front with
  | nil => simp [stop]
  | cons head front induction =>
      cases headDropped : p head with
      | true => simp [headDropped, induction]
      | false => simp [headDropped]

theorem drop_while_append_all {p : Char → Bool} {c : Char} (stop : p c = false)
    {front : List Char} (inside : ∀ other ∈ front, p other = true) (rest : List Char) :
    (front ++ c :: rest).dropWhile p = c :: rest := by
  rw [List.dropWhile_append_of_pos inside, List.dropWhile_cons_of_neg (by simp [stop])]

theorem take_while_append_all {p : Char → Bool} {c : Char} (stop : p c = false)
    {front : List Char} (inside : ∀ other ∈ front, p other = true) (rest : List Char) :
    (front ++ c :: rest).takeWhile p = front := by
  rw [List.takeWhile_append_of_pos inside, List.takeWhile_cons_of_neg (by simp [stop]),
    List.append_nil]

theorem of_line_tab (text : List Char) : ofLine ('\t' :: text) = ofRecipeLine (trim text) := rfl

theorem of_line_of_not_tab {row : List Char} (noTab : row.head? ≠ some '\t') :
    ofLine row = ofPlainLine (trim row) := by
  cases row with
  | nil => rfl
  | cons c rest =>
      have other : c ≠ '\t' := by
        intro same
        exact noTab (by simp [same])
      simp [ofLine, other]

theorem of_line_of_ink {c : Char} (ink : isBlank c = false) (rest : List Char) :
    ofLine (c :: rest) = ofPlainLine (c :: trimEnd rest) := by
  have noTab : (c :: rest).head? ≠ some '\t' := by
    intro isTab
    rw [List.head?_cons, Option.some.injEq] at isTab
    rw [isTab, is_blank_tab] at ink
    contradiction
  rw [of_line_of_not_tab noTab, trim_cons_of_ink ink]

theorem of_line_of_all_blank {gap : List Char} (blank : AllBlank gap) : ofLine gap = .nothing := by
  cases gap with
  | nil => rfl
  | cons c rest =>
      have restBlank : AllBlank rest := fun other inside => blank other (by simp [inside])
      by_cases isTab : c = '\t'
      · subst isTab
        rw [of_line_tab, trim_of_all_blank restBlank]
        rfl
      · rw [of_line_of_not_tab (by simp [isTab]), trim_of_all_blank blank]
        rfl

/-- Blanks at the end of a line change nothing, not even on a line that holds only a tab. -/
theorem of_line_trim_end (row : List Char) : ofLine (trimEnd row) = ofLine row := by
  obtain ⟨gap, blank, joined⟩ := exists_gap_trim_end row
  cases found : trimEnd row with
  | nil =>
      rw [found, List.nil_append] at joined
      rw [joined, of_line_of_all_blank blank]
      rfl
  | cons c rest =>
      rw [found, List.cons_append] at joined
      by_cases isTab : c = '\t'
      · have trimmed : trimEnd (rest ++ gap) = rest := by
          rw [joined] at found
          cases inner : trimEnd (rest ++ gap) with
          | nil => simp [trimEnd, inner, isTab] at found
          | cons head tail =>
              rw [trim_end_cons_of_ne_nil (by simp [inner]), inner] at found
              exact (List.cons.inj found).2
        rw [joined, isTab, of_line_tab, of_line_tab, ← trim_trim_end (rest ++ gap), trimmed]
      · rw [← found, of_line_of_not_tab (by simp [found, isTab]), trim_trim_end,
          of_line_of_not_tab (by simp [joined, isTab])]

theorem assignment?_of_parts {name gap : List Char} (named : name ≠ [])
    (nameChars : ∀ c ∈ name, isNameChar c = true) (blank : AllBlank gap) (value : List Char) :
    assignment? (name ++ (gap ++ '=' :: value)) =
      some ⟨String.ofList name, String.ofList (unwords (words value))⟩ := by
  have gapDropped : (gap ++ '=' :: value).dropWhile isBlank = '=' :: value :=
    drop_while_append_all (by decide) blank value
  cases gap with
  | nil =>
      rw [List.nil_append] at gapDropped ⊢
      simp [assignment?, take_while_append_all (p := isNameChar) (c := '=') (by decide) nameChars,
        named, drop_while_append_all (p := isNameChar) (c := '=') (by decide) nameChars,
        gapDropped, afterOperator?]
  | cons c gap =>
      have stop : isNameChar c = false := not_name_char_of_is_blank (blank c (by simp))
      rw [List.cons_append] at gapDropped ⊢
      simp [assignment?, take_while_append_all stop nameChars, named,
        drop_while_append_all stop nameChars, gapDropped, afterOperator?]

theorem after_operator?_eq_none {line : List Char} (first : line.head? ≠ some '=')
    (second : line.tail.head? ≠ some '=') : afterOperator? line = none := by
  unfold afterOperator?
  split
  · rfl
  · exact absurd rfl first
  · split
    · split
      · exact absurd rfl second
      · rfl
    · rfl

theorem unmarked_of_not_mem {text : List Char} (noColon : ':' ∉ text) (noEquals : '=' ∉ text) :
    ∀ c ∈ text, isRuleMark c = false := by
  intro c inside
  have otherColon : c ≠ ':' := fun same => noColon (same ▸ inside)
  have otherEquals : c ≠ '=' := fun same => noEquals (same ▸ inside)
  simp [isRuleMark, otherColon, otherEquals]

theorem head?_append_colon {front : List Char} (unmarked : ∀ c ∈ front, isRuleMark c = false)
    (rest : List Char) : (front ++ ':' :: rest).head? ≠ some '=' := by
  intro isEquals
  cases front with
  | nil => simp at isEquals
  | cons c front =>
      rw [List.cons_append, List.head?_cons, Option.some.injEq] at isEquals
      have cUnmarked := unmarked c (by simp)
      rw [isEquals] at cUnmarked
      contradiction

theorem after_operator?_of_colon {front prerequisites : List Char}
    (unmarked : ∀ c ∈ front, isRuleMark c = false) (noEquals : prerequisites.head? ≠ some '=') :
    afterOperator? (front ++ ':' :: prerequisites) = none := by
  apply after_operator?_eq_none (head?_append_colon unmarked prerequisites)
  cases front with
  | nil => exact noEquals
  | cons c front =>
      exact head?_append_colon (fun other inside => unmarked other (by simp [inside])) prerequisites

/-- A line of targets, a colon and prerequisites is no assignment, whatever its words are. -/
theorem assignment?_of_rule {targets prerequisites : List Char}
    (unmarked : ∀ c ∈ targets, isRuleMark c = false) (noEquals : prerequisites.head? ≠ some '=') :
    assignment? (targets ++ ':' :: prerequisites) = none := by
  have afterName :=
    drop_while_append_stop (p := isNameChar) (c := ':') (by decide) targets prerequisites
  have afterGap := drop_while_append_stop (p := isBlank) (c := ':') (by decide)
    (targets.dropWhile isNameChar) prerequisites
  have stillUnmarked : ∀ c ∈ (targets.dropWhile isNameChar).dropWhile isBlank,
      isRuleMark c = false := by
    intro c inside
    apply unmarked
    exact (List.dropWhile_sublist _).subset ((List.dropWhile_sublist _).subset inside)
  simp only [assignment?]
  split
  · rfl
  · rw [afterName, afterGap, after_operator?_of_colon stillUnmarked noEquals]
    rfl

theorem rule?_of_parts {targets prerequisites : List Char} (named : targets ≠ [])
    (unmarked : ∀ c ∈ targets, isRuleMark c = false) (noEquals : prerequisites.head? ≠ some '=') :
    rule? (targets ++ ':' :: prerequisites) =
      some ((words targets).map String.ofList, (words prerequisites).map String.ofList) := by
  have allTargets : ∀ c ∈ targets, (!isRuleMark c) = true := by
    intro c inside
    simp [unmarked c inside]
  have stop : (!isRuleMark ':') = false := by decide
  simp only [rule?, take_while_append_all stop allTargets, drop_while_append_all stop allTargets]
  rw [if_neg (by simp [named, noEquals])]

theorem of_plain_line_of_assignment {first : Char} {rest : List Char} {assigned : Variable}
    (noComment : first ≠ '#') (recognised : assignment? (first :: rest) = some assigned) :
    ofPlainLine (first :: rest) = .assignment assigned := by
  simp [ofPlainLine, noComment, recognised]

theorem of_plain_line_of_rule {first : Char} {rest : List Char}
    {targets prerequisites : List String}
    (noComment : first ≠ '#') (noAssignment : assignment? (first :: rest) = none)
    (recognised : rule? (first :: rest) = some (targets, prerequisites)) :
    ofPlainLine (first :: rest) = .rule targets prerequisites := by
  simp [ofPlainLine, noComment, noAssignment, recognised]

theorem of_line_assignment {name gap : List Char} (named : name ≠ [])
    (nameChars : ∀ c ∈ name, isNameChar c = true) (blank : AllBlank gap) (value : List Char) :
    ofLine (name ++ (gap ++ '=' :: value)) =
      .assignment ⟨String.ofList name, String.ofList (unwords (words value))⟩ := by
  cases name with
  | nil => contradiction
  | cons first name =>
      have firstChar := nameChars first (by simp)
      have noComment : first ≠ '#' := by
        intro same
        rw [same] at firstChar
        contradiction
      have trimmed : first :: trimEnd (name ++ (gap ++ '=' :: value)) =
          (first :: name) ++ (gap ++ '=' :: trimEnd value) := by
        rw [← List.append_assoc, trim_end_append_ink (by decide), List.append_assoc]
        rfl
      rw [List.cons_append, of_line_of_ink (is_blank_of_name_char firstChar), trimmed]
      have recognised := assignment?_of_parts named nameChars blank (trimEnd value)
      rw [words_trim_end] at recognised
      exact of_plain_line_of_assignment noComment recognised

theorem of_line_rule {targets prerequisites : List Char} {first : Char}
    (begins : targets.head? = some first) (ink : isBlank first = false) (noComment : first ≠ '#')
    (unmarked : ∀ c ∈ targets, isRuleMark c = false) (noEquals : prerequisites.head? ≠ some '=') :
    ofLine (targets ++ ':' :: prerequisites) =
      .rule ((words targets).map String.ofList) ((words prerequisites).map String.ofList) := by
  have stillNoEquals : (trimEnd prerequisites).head? ≠ some '=' := by
    obtain ⟨gap, -, joined⟩ := exists_gap_trim_end prerequisites
    intro isEquals
    rw [joined, List.head?_append, isEquals] at noEquals
    contradiction
  cases targets with
  | nil => simp at begins
  | cons head targets =>
      have trimmed : head :: trimEnd (targets ++ ':' :: prerequisites) =
          (head :: targets) ++ ':' :: trimEnd prerequisites := by
        rw [trim_end_append_ink (by decide)]
        rfl
      rw [List.head?_cons, Option.some.injEq] at begins
      subst begins
      rw [List.cons_append, of_line_of_ink ink, trimmed]
      have recognised := rule?_of_parts (by simp) unmarked stillNoEquals
      rw [words_trim_end] at recognised
      exact of_plain_line_of_rule noComment (assignment?_of_rule unmarked stillNoEquals) recognised

end MakePlan.Statement
