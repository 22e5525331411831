import MakePlan.Text.Words

/-!
# Words survive trimming

What trimming leaves of a text, and the words of texts that are put together from known parts. The
reader of a Makefile sees a line only through these.
-/

namespace MakePlan.Text

set_option autoImplicit false

instance (text : List Char) : Decidable (IsWord text) :=
  @instDecidableAnd _ _ inferInstance (List.decidableBAll _ text)

def AllBlank (gap : List Char) : Prop := ∀ c ∈ gap, isBlank c = true

theorem no_newline_of_ink {text : List Char} (ink : ∀ c ∈ text, isBlank c = false) :
    '\n' ∉ text := by
  intro inside
  have newlineInk := ink '\n' inside
  rw [is_blank_newline] at newlineInk
  contradiction

theorem exists_first_of_is_word {word : List Char} (isWord : IsWord word) :
    ∃ first, word.head? = some first ∧ isBlank first = false := by
  cases word with
  | nil => exact absurd rfl isWord.1
  | cons first rest => exact ⟨first, rfl, isWord.2 first (by simp)⟩

theorem trim_end_cons_of_ne_nil {c : Char} {rest : List Char} (kept : trimEnd rest ≠ []) :
    trimEnd (c :: rest) = c :: trimEnd rest := by
  cases found : trimEnd rest with
  | nil => exact absurd found kept
  | cons head tail => simp [trimEnd, found]

theorem trim_end_cons_of_ink {c : Char} (ink : isBlank c = false) (rest : List Char) :
    trimEnd (c :: rest) = c :: trimEnd rest := by
  cases found : trimEnd rest with
  | nil => simp [trimEnd, found, ink]
  | cons head tail => simp [trimEnd, found]

theorem trim_end_append {rest : List Char} (kept : trimEnd rest ≠ []) (front : List Char) :
    trimEnd (front ++ rest) = front ++ trimEnd rest := by
  induction front with
  | nil => rfl
  | cons head front induction =>
      have stillKept : trimEnd (front ++ rest) ≠ [] := by
        rw [induction]
        simp [kept]
      rw [List.cons_append, trim_end_cons_of_ne_nil stillKept, induction, List.cons_append]

theorem trim_end_append_ink {c : Char} (ink : isBlank c = false) (front rest : List Char) :
    trimEnd (front ++ c :: rest) = front ++ c :: trimEnd rest := by
  rw [trim_end_append (by simp [trim_end_cons_of_ink ink]), trim_end_cons_of_ink ink]

theorem trim_end_of_all_blank {gap : List Char} (blank : AllBlank gap) : trimEnd gap = [] := by
  induction gap with
  | nil => rfl
  | cons c gap induction =>
      have restBlank : AllBlank gap := fun other inside => blank other (by simp [inside])
      simp [trimEnd, induction restBlank, blank c (by simp)]

theorem trim_end_append_all_blank (text : List Char) {gap : List Char} (blank : AllBlank gap) :
    trimEnd (text ++ gap) = trimEnd text := by
  induction text with
  | nil => exact trim_end_of_all_blank blank
  | cons c text induction => simp only [List.cons_append, trimEnd, induction]

theorem trim_end_of_no_blank {text : List Char} (ink : ∀ c ∈ text, isBlank c = false) :
    trimEnd text = text := by
  induction text with
  | nil => rfl
  | cons c rest induction =>
      rw [trim_end_cons_of_ink (ink c (by simp)),
        induction fun other inside => ink other (by simp [inside])]

theorem exists_gap_trim_end (text : List Char) :
    ∃ gap, AllBlank gap ∧ text = trimEnd text ++ gap := by
  induction text with
  | nil => exact ⟨[], by simp [AllBlank], rfl⟩
  | cons c rest induction =>
      obtain ⟨gap, blank, joined⟩ := induction
      cases found : trimEnd rest with
      | nil =>
          rw [found, List.nil_append] at joined
          subst joined
          cases cBlank : isBlank c with
          | true =>
              refine ⟨c :: rest, ?_, by simp [trimEnd, found, cBlank]⟩
              intro other inside
              rcases List.mem_cons.1 inside with here | there
              · rw [here, cBlank]
              · exact blank other there
          | false => exact ⟨rest, blank, by simp [trimEnd, found, cBlank]⟩
      | cons head tail =>
          refine ⟨gap, blank, ?_⟩
          rw [trim_end_cons_of_ne_nil (by simp [found]), List.cons_append, ← joined]

theorem trim_end_eq_nil_iff {text : List Char} : trimEnd text = [] ↔ AllBlank text := by
  refine ⟨fun empty => ?_, trim_end_of_all_blank⟩
  obtain ⟨gap, blank, joined⟩ := exists_gap_trim_end text
  rw [empty, List.nil_append] at joined
  exact joined ▸ blank

@[simp] theorem trim_end_trim_end (text : List Char) : trimEnd (trimEnd text) = trimEnd text := by
  induction text with
  | nil => rfl
  | cons c rest induction =>
      cases found : trimEnd rest with
      | nil =>
          cases cBlank : isBlank c with
          | true => simp [trimEnd, found, cBlank]
          | false => simp [trimEnd, found, cBlank]
      | cons head tail =>
          have kept : trimEnd rest ≠ [] := by simp [found]
          have keptTwice : trimEnd (trimEnd rest) ≠ [] := by rwa [induction]
          rw [trim_end_cons_of_ne_nil kept, trim_end_cons_of_ne_nil keptTwice, induction]

@[simp] theorem trim_trim_end (text : List Char) : trim (trimEnd text) = trim text := by
  rw [trim, trim_end_trim_end, trim]

theorem trim_of_all_blank {gap : List Char} (blank : AllBlank gap) : trim gap = [] := by
  rw [trim, trim_end_of_all_blank blank]
  rfl

theorem trim_start_eq_nil_iff {text : List Char} : trimStart text = [] ↔ AllBlank text := by
  induction text with
  | nil => simp [trimStart, AllBlank]
  | cons c rest induction =>
      cases cBlank : isBlank c with
      | true =>
          rw [trimStart, List.dropWhile_cons_of_pos cBlank, ← trimStart, induction]
          simp [AllBlank, cBlank]
      | false => simp [trimStart, AllBlank, cBlank]

theorem trim_start_append {front : List Char} (kept : ¬ AllBlank front) (rest : List Char) :
    trimStart (front ++ rest) = trimStart front ++ rest := by
  induction front with
  | nil => exact absurd (by simp [AllBlank]) kept
  | cons c front induction =>
      cases cBlank : isBlank c with
      | false => simp [trimStart, cBlank]
      | true =>
          have frontKept : ¬ AllBlank front := fun blank =>
            kept (List.forall_mem_cons.2 ⟨cBlank, blank⟩)
          simpa [trimStart, cBlank] using induction frontKept

theorem trim_start_all_blank_append {gap : List Char} (blank : AllBlank gap) (rest : List Char) :
    trimStart (gap ++ rest) = trimStart rest :=
  List.dropWhile_append_of_pos blank

theorem trim_append_all_blank (text : List Char) {gap : List Char} (blank : AllBlank gap) :
    trim (text ++ gap) = trim text := by
  rw [trim, trim_end_append_all_blank text blank, trim]

theorem trim_all_blank_append {gap : List Char} (blank : AllBlank gap) (text : List Char) :
    trim (gap ++ text) = trim text := by
  by_cases empty : AllBlank text
  · have allBlank : AllBlank (gap ++ text) := List.forall_mem_append.2 ⟨blank, empty⟩
    rw [trim_of_all_blank allBlank, trim_of_all_blank empty]
  · have kept : trimEnd text ≠ [] := fun noneLeft => empty (trim_end_eq_nil_iff.1 noneLeft)
    rw [trim, trim_end_append kept, trim_start_all_blank_append blank, trim]

theorem trim_append {front rest : List Char} (frontKept : ¬ AllBlank front)
    (restKept : ¬ AllBlank rest) (middle : List Char) :
    trim (front ++ (middle ++ rest)) = trimStart front ++ (middle ++ trimEnd rest) := by
  have endKept : trimEnd rest ≠ [] := fun noneLeft => restKept (trim_end_eq_nil_iff.1 noneLeft)
  rw [trim, ← List.append_assoc, trim_end_append endKept, List.append_assoc,
    trim_start_append frontKept]

theorem trim_cons_of_ink {c : Char} (ink : isBlank c = false) (rest : List Char) :
    trim (c :: rest) = c :: trimEnd rest := by
  rw [trim, trim_end_cons_of_ink ink, trimStart, List.dropWhile_cons_of_neg (by simp [ink])]

theorem get_last?_trim_end (text : List Char) :
    (trimEnd text).getLast? = (text.filter (!isBlank ·)).getLast? := by
  induction text with
  | nil => rfl
  | cons c rest induction =>
      cases found : trimEnd rest with
      | nil =>
          have restBlank : rest.filter (!isBlank ·) = [] := by
            rw [found] at induction
            exact List.getLast?_eq_none_iff.1 induction.symm
          cases cBlank : isBlank c with
          | true => simp [trimEnd, found, cBlank, restBlank]
          | false => simp [trimEnd, found, cBlank, restBlank]
      | cons head tail =>
          have restInk : rest.filter (!isBlank ·) ≠ [] := by
            intro noneLeft
            rw [found, noneLeft] at induction
            simp at induction
          rw [trim_end_cons_of_ne_nil (by simp [found]),
            List.getLast?_cons_of_ne_nil (by simp [found]), induction, List.filter_cons]
          split
          · rw [List.getLast?_cons_of_ne_nil restInk]
          · rfl

theorem first_ink_trim (text : List Char) : (trim text).head?.any isBlank = false := by
  have first := List.head?_dropWhile_not isBlank (trimEnd text)
  rw [trim, trimStart]
  cases found : ((trimEnd text).dropWhile isBlank).head? with
  | none => rfl
  | some c =>
      rw [found] at first
      simpa using first

theorem last_ink_trim_end {text : List Char} {c : Char} (last : (trimEnd text).getLast? = some c) :
    isBlank c = false := by
  rw [get_last?_trim_end] at last
  simpa using (List.mem_filter.1 (List.mem_of_getLast? last)).2

theorem last_ink_trim (text : List Char) : (trim text).getLast?.any isBlank = false := by
  obtain ⟨front, joined⟩ := List.dropWhile_suffix isBlank (l := trimEnd text)
  cases last : (trim text).getLast? with
  | none => rfl
  | some c =>
      have trimEndLast : (trimEnd text).getLast? = some c := by
        rw [← joined, List.getLast?_append, ← trimStart, ← trim, last, Option.some_or]
      exact last_ink_trim_end trimEndLast

theorem mem_of_mem_trim {text : List Char} {c : Char} (inside : c ∈ trim text) : c ∈ text := by
  obtain ⟨gap, -, joined⟩ := exists_gap_trim_end text
  rw [joined]
  exact List.mem_append_left gap ((List.dropWhile_sublist isBlank).subset inside)

theorem words_cons_blank {c : Char} (blank : isBlank c = true) (rest : List Char) :
    words (c :: rest) = words rest := by
  have cut := words_append_blank blank [] rest
  simpa [words, pieces] using cut

theorem words_all_blank_append {gap : List Char} (blank : AllBlank gap) (text : List Char) :
    words (gap ++ text) = words text := by
  induction gap with
  | nil => rfl
  | cons c gap induction =>
      rw [List.cons_append, words_cons_blank (blank c (by simp))]
      exact induction fun other inside => blank other (by simp [inside])

theorem words_append_all_blank (text : List Char) {gap : List Char} (blank : AllBlank gap) :
    words (text ++ gap) = words text := by
  cases gap with
  | nil => rw [List.append_nil]
  | cons c rest =>
      have restBlank : AllBlank rest := fun other inside => blank other (by simp [inside])
      have noneLeft : words rest = [] := by
        have trimmed := words_all_blank_append restBlank []
        rw [List.append_nil] at trimmed
        exact trimmed
      rw [words_append_blank (blank c (by simp)), noneLeft, List.append_nil]

theorem words_trim_end (text : List Char) : words (trimEnd text) = words text := by
  obtain ⟨gap, blank, joined⟩ := exists_gap_trim_end text
  have kept := words_append_all_blank (trimEnd text) blank
  rw [← joined] at kept
  exact kept.symm

/-- The pieces of a text hold its characters, except the blanks. -/
theorem ink_of_mem_pieces {text piece : List Char} (inside : piece ∈ pieces text) {c : Char}
    (cInside : c ∈ piece) : isBlank c = false ∧ c ∈ text := by
  induction text generalizing piece with
  | nil =>
      rw [pieces, List.mem_singleton] at inside
      simp [inside] at cInside
  | cons head rest induction =>
      cases headBlank : isBlank head with
      | true =>
          rw [pieces, if_pos headBlank] at inside
          rcases List.mem_cons.1 inside with here | there
          · simp [here] at cInside
          · exact (induction there cInside).imp_right (List.mem_cons_of_mem head)
      | false =>
          cases found : pieces rest with
          | nil => exact absurd found (pieces_ne_nil rest)
          | cons first others =>
              simp only [pieces, headBlank, found, Bool.false_eq_true, if_false] at inside
              rw [found] at induction
              rcases List.mem_cons.1 inside with here | there
              · rw [here] at cInside
                rcases List.mem_cons.1 cInside with isHead | inFirst
                · exact ⟨isHead ▸ headBlank, by simp [isHead]⟩
                · exact (induction (by simp) inFirst).imp_right (List.mem_cons_of_mem head)
              · exact (induction (by simp [there]) cInside).imp_right (List.mem_cons_of_mem head)

theorem is_word_of_mem_words {text word : List Char} (inside : word ∈ words text) :
    IsWord word := by
  obtain ⟨piece, nonempty⟩ := List.mem_filter.1 inside
  refine ⟨by simpa using nonempty, fun c cInside => (ink_of_mem_pieces piece cInside).1⟩

theorem mem_of_mem_words {text word : List Char} (inside : word ∈ words text) {c : Char}
    (cInside : c ∈ word) : c ∈ text :=
  (ink_of_mem_pieces (List.mem_filter.1 inside).1 cInside).2

theorem exists_words_cons {c : Char} (ink : isBlank c = false) (rest : List Char) :
    ∃ more others, words (c :: rest) = (c :: more) :: others := by
  cases found : pieces rest with
  | nil => exact absurd found (pieces_ne_nil rest)
  | cons first others =>
      exact ⟨first, others.filter (!·.isEmpty), by simp [words, pieces, ink, found]⟩

theorem pieces_of_no_blank {text : List Char} (ink : ∀ c ∈ text, isBlank c = false) :
    pieces text = [text] := by
  induction text with
  | nil => rfl
  | cons c rest induction =>
      have restPieces := induction fun other inside => ink other (by simp [inside])
      simp [pieces, ink c (by simp), restPieces]

theorem words_of_is_word {word : List Char} (isWord : IsWord word) : words word = [word] := by
  simp [words, pieces_of_no_blank isWord.2, isWord.1]

theorem words_unwords {list : List (List Char)} (areWords : ∀ word ∈ list, IsWord word) :
    words (unwords list) = list := by
  induction list with
  | nil => rfl
  | cons first others induction =>
      have othersWords : ∀ word ∈ others, IsWord word :=
        fun word inside => areWords word (by simp [inside])
      have firstWord := words_of_is_word (areWords first (by simp))
      cases others with
      | nil => exact firstWord
      | cons second others =>
          change words (first ++ ' ' :: unwords (second :: others)) = _
          rw [words_append_blank is_blank_space, firstWord, induction othersWords]
          rfl

theorem trim_end_of_last {text : List Char}
    (ink : ∀ c, text.getLast? = some c → isBlank c = false) : trimEnd text = text := by
  cases List.eq_nil_or_concat text with
  | inl empty => rw [empty]; rfl
  | inr ends =>
      obtain ⟨front, last, textEq⟩ := ends
      rw [List.concat_eq_append] at textEq
      rw [textEq, List.getLast?_concat] at ink
      rw [textEq, trim_end_append_ink (ink last rfl)]
      rfl

theorem trim_of_ends {text : List Char} (firstInk : text.head?.any isBlank = false)
    (lastInk : text.getLast?.any isBlank = false) : trim text = text := by
  have kept : trimEnd text = text := by
    apply trim_end_of_last
    intro c last
    rw [last] at lastInk
    exact lastInk
  rw [trim, kept, trimStart]
  cases text with
  | nil => rfl
  | cons first rest =>
      have ink : isBlank first = false := firstInk
      exact List.dropWhile_cons_of_neg (by simp [ink])

theorem intercalate_of_list (list : List (List Char)) :
    " ".intercalate (list.map String.ofList) = String.ofList (unwords list) := by
  induction list with
  | nil => rfl
  | cons first others induction =>
      cases others with
      | nil => simp [unwords]
      | cons second others =>
          rw [List.map_cons, List.map_cons, String.intercalate_cons_cons, ← List.map_cons,
            induction]
          change _ = String.ofList (first ++ ' ' :: unwords (second :: others))
          rw [String.ofList_append, String.append_assoc]
          simp

theorem to_list_intercalate (texts : List String) :
    (" ".intercalate texts).toList = unwords (texts.map String.toList) := by
  have joined := intercalate_of_list (texts.map String.toList)
  rw [List.map_map] at joined
  apply String.ofList_injective
  rw [← joined, String.ofList_toList]
  simp

theorem unwords_cons (first : List Char) {others : List (List Char)} (nonempty : others ≠ []) :
    unwords (first :: others) = first ++ ' ' :: unwords others := by
  cases others with
  | nil => contradiction
  | cons second others => rfl

theorem mem_unwords {list : List (List Char)} {c : Char} (inside : c ∈ unwords list) :
    c = ' ' ∨ ∃ word ∈ list, c ∈ word := by
  induction list with
  | nil => simp [unwords] at inside
  | cons first others induction =>
      by_cases empty : others = []
      · subst empty
        exact .inr ⟨first, by simp, inside⟩
      · rw [unwords_cons first empty, List.mem_append, List.mem_cons] at inside
        rcases inside with inFirst | space | inOthers
        · exact .inr ⟨first, by simp, inFirst⟩
        · exact .inl space
        · apply (induction inOthers).imp_right
          rintro ⟨word, wordInside, cInside⟩
          exact ⟨word, List.mem_cons_of_mem _ wordInside, cInside⟩

theorem head?_unwords {first : List Char} (nonempty : first ≠ []) (others : List (List Char)) :
    (unwords (first :: others)).head? = first.head? := by
  cases first with
  | nil => contradiction
  | cons c rest => cases others <;> rfl

theorem get_last?_unwords (front : List (List Char)) {last : List Char} (nonempty : last ≠ []) :
    (unwords (front ++ [last])).getLast? = last.getLast? := by
  induction front with
  | nil => rfl
  | cons first front induction =>
      have restNonempty : unwords (front ++ [last]) ≠ [] := by
        intro empty
        rw [empty] at induction
        exact nonempty (List.getLast?_eq_none_iff.1 induction.symm)
      rw [List.cons_append, unwords_cons first (by simp), List.getLast?_append,
        List.getLast?_cons_of_ne_nil restNonempty, induction]
      cases found : last.getLast? with
      | none => exact absurd (List.getLast?_eq_none_iff.1 found) nonempty
      | some c => rfl

/-- A space before each word is a space before the words that are joined by spaces. -/
theorem flat_map_space {list : List (List Char)} (nonempty : list ≠ []) :
    list.flatMap (' ' :: ·) = ' ' :: unwords list := by
  induction list with
  | nil => contradiction
  | cons first others induction =>
      by_cases empty : others = []
      · simp [empty, unwords]
      · rw [List.flatMap_cons, induction empty, unwords_cons first empty]
        rfl

end MakePlan.Text
