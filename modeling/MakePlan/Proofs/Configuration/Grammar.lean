import MakePlan.Configuration.Tokens
import MakePlan.Proofs.Configuration.Setting
import MakePlan.Proofs.Result

/-!
# The grammar of build options

Build options are groups one after another: a flag that stands for a choice, or a flag and the token
after it, which is its value. They are read exactly if they are such groups. Otherwise whole groups
stand in front of the token that is reported: one that is no flag, or a last one without its value.
-/

namespace MakePlan

set_option autoImplicit false

namespace Flag

variable {flag : Flag} {token : String}

def Named (token : String) : Prop := ∃ flag ∈ all, flag.name = token

def Fills (token : String) (slot : Slot) : Prop :=
  ∃ flag ∈ all, flag.name = token ∧ ∃ placeholder, flag.effect = .write slot placeholder

theorem Fills.named {slot : Slot} (fills : Fills token slot) : Named token := by
  obtain ⟨flag, listed, name, -⟩ := fills
  exact ⟨flag, listed, name⟩

theorem find?_name (listed : flag ∈ all) : find? flag.name = some flag := by
  revert flag
  decide

theorem find?_eq_some_iff : find? token = some flag ↔ flag ∈ all ∧ flag.name = token := by
  constructor
  · intro found
    exact ⟨List.mem_of_find?_eq_some found, by simpa using List.find?_some found⟩
  · rintro ⟨listed, rfl⟩
    exact find?_name listed

theorem find?_eq_none_iff : find? token = none ↔ ¬ Named token := by
  simp [find?, Named]

end Flag

namespace Configuration

variable {tokens group before rest : List String} {assignment : Assignment}
variable {read : List Assignment} {result : Except Failure (List Assignment)}

/-- A flag that stands for a choice, or a flag and its value, which may be any token. -/
inductive Group : List String → Assignment → Prop
  | choice {flag : Flag} {choice : Choice} (listed : flag ∈ Flag.all)
      (effect : flag.effect = .choose choice) : Group [flag.name] (.choose choice)
  | value {flag : Flag} {slot : Slot} {placeholder : String} (listed : flag ∈ Flag.all)
      (effect : flag.effect = .write slot placeholder) (value : String) :
      Group [flag.name, value] (.write slot value)

/-- Groups one after another, and the assignments that they stand for. -/
inductive Grouped : List String → List Assignment → Prop
  | nil : Grouped [] []
  | cons {group rest : List String} {assignment : Assignment} {read : List Assignment}
      (first : Group group assignment) (others : Grouped rest read) :
      Grouped (group ++ rest) (assignment :: read)

def WellFormed (tokens : List String) : Prop := ∃ read, Grouped tokens read

/-- What reading comes to. In front of an offence there are whole groups only. -/
inductive Reading : List String → Except Failure (List Assignment) → Prop
  | whole {tokens : List String} {read : List Assignment} (grouped : Grouped tokens read) :
      Reading tokens (.ok read)
  | unknown {before : List String} {token : String} {rest : List String} {read : List Assignment}
      (grouped : Grouped before read) (foreign : ¬ Flag.Named token) :
      Reading (before ++ token :: rest) (.error (.unknownOption token))
  | unfinished {before : List String} {name : String} {slot : Slot} {read : List Assignment}
      (grouped : Grouped before read) (fills : Flag.Fills name slot) :
      Reading (before ++ [name]) (.error (.missingValue name))

theorem assignments_group (first : Group group assignment) (rest : List String) :
    assignments (group ++ rest) = (assignments rest).map (assignment :: ·) := by
  cases first with
  | choice listed effect =>
      rw [List.singleton_append, assignments, Flag.find?_name listed]
      simp only [effect]
  | value listed effect value =>
      rw [List.cons_append, assignments, Flag.find?_name listed]
      simp only [effect, List.singleton_append]

/-- Whole groups have no effect on how the tokens after them are read. -/
theorem assignments_grouped (grouped : Grouped before read) (rest : List String) :
    assignments (before ++ rest) = (assignments rest).map (read ++ ·) := by
  induction grouped with
  | nil => cases readRest : assignments rest <;> simp [readRest, Except.map]
  | cons first others induction =>
      rw [List.append_assoc, assignments_group first, induction]
      cases assignments rest <;> simp [Except.map]

theorem Reading.cons (first : Group group assignment) (reading : Reading rest result) :
    Reading (group ++ rest) (result.map (assignment :: ·)) := by
  cases reading with
  | whole grouped => exact .whole (.cons first grouped)
  | unknown grouped foreign =>
      rw [← List.append_assoc]
      exact .unknown (.cons first grouped) foreign
  | unfinished grouped fills =>
      rw [← List.append_assoc]
      exact .unfinished (.cons first grouped) fills

theorem reading_assignments (tokens : List String) : Reading tokens (assignments tokens) := by
  induction tokens using assignments.induct with
  | case1 => exact .whole .nil
  | case2 token rest unknown =>
      rw [assignments, unknown]
      exact .unknown .nil (Flag.find?_eq_none_iff.1 unknown)
  | case3 token rest flag found choice effect induction =>
      obtain ⟨listed, rfl⟩ := Flag.find?_eq_some_iff.1 found
      have first : Group [flag.name] (.choose choice) := .choice listed effect
      rw [← List.singleton_append, assignments_group first]
      exact induction.cons first
  | case4 token flag found slot placeholder effect =>
      obtain ⟨listed, rfl⟩ := Flag.find?_eq_some_iff.1 found
      rw [assignments, found]
      simp only [effect]
      exact .unfinished .nil ⟨flag, listed, rfl, placeholder, effect⟩
  | case5 token flag found slot placeholder effect value rest induction =>
      obtain ⟨listed, rfl⟩ := Flag.find?_eq_some_iff.1 found
      have first : Group [flag.name, value] (.write slot value) := .value listed effect value
      change Reading ([flag.name, value] ++ rest) (assignments ([flag.name, value] ++ rest))
      rw [assignments_group first]
      exact induction.cons first

/-- Reading follows the grammar, and the grammar leaves it no choice. -/
theorem assignments_eq_iff : assignments tokens = result ↔ Reading tokens result := by
  constructor
  · rintro rfl
    exact reading_assignments tokens
  · intro reading
    cases reading with
    | whole grouped =>
        have alone := assignments_grouped grouped []
        rw [List.append_nil] at alone
        simpa [assignments, Except.map] using alone
    | unknown grouped foreign =>
        rw [assignments_grouped grouped, assignments, Flag.find?_eq_none_iff.2 foreign]
        rfl
    | unfinished grouped fills =>
        obtain ⟨flag, listed, rfl, placeholder, effect⟩ := fills
        rw [assignments_grouped grouped, assignments, Flag.find?_name listed]
        simp only [effect]
        rfl

/-- Where the next token stands: where an option is expected, behind a flag that takes it as its
value, or behind an unknown option. -/
theorem position_cases (before : List String) :
    WellFormed before ∨
    (∃ front name slot, before = front ++ [name] ∧ WellFormed front ∧ Flag.Fills name slot) ∨
    ∃ front offence rest, before = front ++ offence :: rest ∧ WellFormed front ∧
      ¬ Flag.Named offence := by
  have reading := reading_assignments before
  generalize assignments before = result at reading
  cases reading with
  | whole grouped => exact .inl ⟨_, grouped⟩
  | unfinished grouped fills => exact .inr (.inl ⟨_, _, _, rfl, ⟨_, grouped⟩, fills⟩)
  | unknown grouped foreign => exact .inr (.inr ⟨_, _, _, rfl, ⟨_, grouped⟩, foreign⟩)

theorem assignments_eq_ok_iff : assignments tokens = .ok read ↔ Grouped tokens read := by
  rw [assignments_eq_iff]
  constructor
  · intro reading
    cases reading with
    | whole grouped => exact grouped
  · exact .whole

section Tokens

variable {name token : String} {slot : Slot} {configuration : Configuration} {failure : Failure}

theorem of_tokens_eq_ok_iff :
    ofTokens tokens = .ok configuration ↔
      ∃ read, Grouped tokens read ∧ ofAssignments read = configuration := by
  simp only [ofTokens, Result.map_eq_ok, assignments_eq_ok_iff]

theorem of_tokens_eq_error_iff :
    ofTokens tokens = .error failure ↔ Reading tokens (.error failure) := by
  rw [ofTokens, Result.map_eq_error, assignments_eq_iff]

theorem exists_of_tokens_iff :
    (∃ configuration, ofTokens tokens = .ok configuration) ↔ WellFormed tokens := by
  simp only [of_tokens_eq_ok_iff]
  constructor
  · rintro ⟨_, read, grouped, -⟩
    exact ⟨read, grouped⟩
  · rintro ⟨read, grouped⟩
    exact ⟨ofAssignments read, read, grouped, rfl⟩

theorem of_tokens_eq_unknown_option_iff :
    ofTokens tokens = .error (.unknownOption token) ↔
      ∃ before rest, tokens = before ++ [token] ++ rest ∧ WellFormed before ∧
        ¬ Flag.Named token := by
  rw [of_tokens_eq_error_iff]
  constructor
  · intro reading
    cases reading with
    | @unknown before _ rest read grouped foreign =>
        exact ⟨before, rest, by simp, ⟨read, grouped⟩, foreign⟩
  · rintro ⟨before, rest, rfl, ⟨read, grouped⟩, foreign⟩
    rw [List.append_assoc, List.singleton_append]
    exact .unknown grouped foreign

theorem of_tokens_eq_missing_value_iff :
    ofTokens tokens = .error (.missingValue name) ↔
      ∃ before slot, tokens = before ++ [name] ∧ WellFormed before ∧ Flag.Fills name slot := by
  rw [of_tokens_eq_error_iff]
  constructor
  · intro reading
    cases reading with
    | @unfinished before _ slot read grouped fills =>
        exact ⟨before, slot, rfl, ⟨read, grouped⟩, fills⟩
  · rintro ⟨before, slot, rfl, ⟨read, grouped⟩, fills⟩
    exact .unfinished grouped fills

/-- Reading has no other complaints. -/
theorem of_tokens_offence (refused : ofTokens tokens = .error failure) :
    (∃ token, failure = .unknownOption token) ∨ ∃ name, failure = .missingValue name := by
  cases of_tokens_eq_error_iff.1 refused with
  | unknown grouped foreign => exact .inl ⟨_, rfl⟩
  | unfinished grouped fills => exact .inr ⟨_, rfl⟩

theorem of_tokens_value (accepted : ofTokens before = .ok configuration)
    (fills : Flag.Fills name slot) (value : String) :
    ofTokens (before ++ [name] ++ [value]) = .ok (configuration.assign (.write slot value)) := by
  obtain ⟨read, grouped, rfl⟩ := of_tokens_eq_ok_iff.1 accepted
  obtain ⟨flag, listed, rfl, placeholder, effect⟩ := fills
  have last : Group [flag.name, value] (.write slot value) := .value listed effect value
  have readLast : assignments [flag.name, value] = .ok [.write slot value] :=
    assignments_group last []
  rw [List.append_assoc, List.singleton_append, ofTokens, assignments_grouped grouped, readLast]
  simp only [Except.map, of_assignments_append]
  rfl

/-- Reading accepts the concatenations of groups and reports the first offence in all other tokens.
Behind an unknown option nothing matters, and a missing value can be supplied. -/
theorem of_tokens_grammar (tokens : List String) :
    ((∃ configuration, ofTokens tokens = .ok configuration) ↔ WellFormed tokens) ∧
    (∀ token, ofTokens tokens = .error (.unknownOption token) ↔
      ∃ before rest, tokens = before ++ [token] ++ rest ∧ WellFormed before ∧
        ¬ Flag.Named token) ∧
    (∀ name, ofTokens tokens = .error (.missingValue name) ↔
      ∃ before slot, tokens = before ++ [name] ∧ WellFormed before ∧ Flag.Fills name slot) ∧
    (∀ failure, ofTokens tokens = .error failure →
      (∃ token, failure = .unknownOption token) ∨ ∃ name, failure = .missingValue name) ∧
    (∀ token, ofTokens tokens = .error (.unknownOption token) →
      ∀ rest, ofTokens (tokens ++ rest) = .error (.unknownOption token)) ∧
    (∀ before name, tokens = before ++ [name] → ofTokens tokens = .error (.missingValue name) →
      ∃ configuration slot, ofTokens before = .ok configuration ∧ Flag.Fills name slot ∧
        ∀ value, ∃ completed, ofTokens (tokens ++ [value]) = .ok completed ∧
          completed.read slot = value ∧
          ∀ setting, setting ≠ .text slot → completed.get setting = configuration.get setting) := by
  refine ⟨exists_of_tokens_iff, fun _ => of_tokens_eq_unknown_option_iff,
    fun _ => of_tokens_eq_missing_value_iff, fun _ => of_tokens_offence, ?_, ?_⟩
  · intro token refused rest
    obtain ⟨before, others, rfl, wellFormed, foreign⟩ := of_tokens_eq_unknown_option_iff.1 refused
    refine of_tokens_eq_unknown_option_iff.2 ⟨before, others ++ rest, ?_, wellFormed, foreign⟩
    rw [List.append_assoc]
  · rintro before name rfl refused
    obtain ⟨same, slot, split, wellFormed, fills⟩ := of_tokens_eq_missing_value_iff.1 refused
    rw [List.append_cancel_right split]
    obtain ⟨configuration, accepted⟩ := exists_of_tokens_iff.2 wellFormed
    refine ⟨configuration, slot, accepted, fills, fun value => ?_⟩
    refine ⟨configuration.assign (.write slot value), of_tokens_value accepted fills value, ?_, ?_⟩
    · rw [read_assign_write, if_pos rfl]
    · intro setting apart
      exact get_assign_other apart.symm

/-- The value of `-o` is spelled like a flag that takes one, and the last flag lacks its value. -/
theorem of_tokens_grammar_unfinished :
    let tokens := ["-gcc", "-o", "-srcdir", "-builddir"]
    ofTokens tokens = .error (.missingValue "-builddir") ∧
    (∃ configuration slot, ofTokens ["-gcc", "-o", "-srcdir"] = .ok configuration ∧
      Flag.Fills "-builddir" slot ∧
      ∀ value, ∃ completed, ofTokens (tokens ++ [value]) = .ok completed ∧
        completed.read slot = value ∧
        ∀ setting, setting ≠ .text slot → completed.get setting = configuration.get setting) ∧
    ∀ rest, ofTokens (["-o", "-debug", "--debug"] ++ rest) = .error (.unknownOption "--debug") := by
  intro tokens
  have refused : ofTokens tokens = .error (.missingValue "-builddir") := rfl
  have unknown : ofTokens ["-o", "-debug", "--debug"] = .error (.unknownOption "--debug") := rfl
  obtain ⟨-, -, -, -, -, supplied⟩ := of_tokens_grammar tokens
  obtain ⟨-, -, -, -, unmoved, -⟩ := of_tokens_grammar ["-o", "-debug", "--debug"]
  exact ⟨refused, supplied ["-gcc", "-o", "-srcdir"] "-builddir" rfl refused,
    unmoved "--debug" unknown⟩

end Tokens

end Configuration

end MakePlan
