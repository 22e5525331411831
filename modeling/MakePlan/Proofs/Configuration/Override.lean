import MakePlan.Proofs.Configuration.Grammar

/-!
# Later build options override earlier ones

Build options that are read after others change the settings that they are about and no others. What
they are about is seen at the positions of options only: a value never counts as a flag.
-/

namespace MakePlan.Configuration

set_option autoImplicit false

variable {tokens earlier later group : List String} {setting : Setting} {flag : Flag}
variable {configuration overriding : Configuration} {assignment : Assignment}
variable {read : List Assignment} {failure : Failure}

/-- A flag about the setting stands where an option is expected: whole groups are in front of it. -/
def Sets (tokens : List String) (setting : Setting) : Prop :=
  ∃ before flag rest, tokens = before ++ flag.name :: rest ∧ WellFormed before ∧
    flag ∈ Flag.all ∧ flag.setting = setting

theorem Group.head (first : Group group assignment) :
    ∃ flag rest, group = flag.name :: rest ∧ flag ∈ Flag.all ∧
      flag.setting = assignment.setting := by
  cases first with
  | @choice flag choice listed effect =>
      exact ⟨flag, [], rfl, listed, by rw [Flag.setting, effect]; rfl⟩
  | @value flag slot placeholder listed effect value =>
      exact ⟨flag, [value], rfl, listed, by rw [Flag.setting, effect]; rfl⟩

theorem assigned_of_head {rest : List String} (listed : flag ∈ Flag.all)
    (accepted : assignments (flag.name :: rest) = .ok read) :
    ∃ assignment ∈ read, assignment.setting = flag.setting := by
  rw [assignments, Flag.find?_name listed] at accepted
  cases effect : flag.effect with
  | choose choice =>
      simp only [effect, Result.map_eq_ok] at accepted
      obtain ⟨others, -, rfl⟩ := accepted
      exact ⟨.choose choice, List.mem_cons_self, by rw [Flag.setting, effect]; rfl⟩
  | write slot placeholder =>
      simp only [effect] at accepted
      cases rest with
      | nil => contradiction
      | cons value rest =>
          obtain ⟨others, -, rfl⟩ := Result.map_eq_ok.1 accepted
          exact ⟨.write slot value, List.mem_cons_self, by rw [Flag.setting, effect]; rfl⟩

theorem sets_iff (grouped : Grouped tokens read) :
    Sets tokens setting ↔ ∃ assignment ∈ read, assignment.setting = setting := by
  constructor
  · rintro ⟨before, flag, rest, rfl, ⟨front, groupedFront⟩, listed, rfl⟩
    have accepted : assignments (before ++ flag.name :: rest) = .ok read :=
      assignments_eq_ok_iff.2 grouped
    rw [assignments_grouped groupedFront, Result.map_eq_ok] at accepted
    obtain ⟨back, accepted, rfl⟩ := accepted
    obtain ⟨assignment, inside, same⟩ := assigned_of_head listed accepted
    exact ⟨assignment, List.mem_append_right front inside, same⟩
  · rintro ⟨assignment, inside, rfl⟩
    induction grouped with
    | nil => simp at inside
    | @cons group rest head others first grouped induction =>
        rcases List.mem_cons.1 inside with rfl | later
        · obtain ⟨flag, values, rfl, listed, same⟩ := first.head
          exact ⟨[], flag, values ++ rest, rfl, ⟨[], .nil⟩, listed, same⟩
        · obtain ⟨before, flag, behind, rfl, ⟨front, groupedFront⟩, listed, same⟩ :=
            induction later
          refine ⟨group ++ before, flag, behind, ?_, ⟨_, .cons first groupedFront⟩, listed, same⟩
          rw [List.append_assoc]

theorem get_of_not_sets (accepted : ofTokens tokens = .ok configuration)
    (unset : ¬ Sets tokens setting) :
    configuration.get setting = ({} : Configuration).get setting := by
  obtain ⟨read, grouped, rfl⟩ := of_tokens_eq_ok_iff.1 accepted
  rw [sets_iff grouped] at unset
  exact get_foldl_other fun assignment inside same => unset ⟨assignment, inside, same⟩

theorem of_tokens_append_error (accepted : ofTokens earlier = .ok configuration)
    (refused : ofTokens later = .error failure) :
    ofTokens (earlier ++ later) = .error failure := by
  obtain ⟨read, grouped, -⟩ := of_tokens_eq_ok_iff.1 accepted
  rw [ofTokens, Result.map_eq_error] at refused
  rw [ofTokens, assignments_grouped grouped, refused]
  rfl

/-- Setting by setting, the later tokens decide if they are about it, and else the earlier ones. -/
theorem of_tokens_append_ok (accepted : ofTokens earlier = .ok configuration)
    (acceptedLater : ofTokens later = .ok overriding) :
    ∃ combined, ofTokens (earlier ++ later) = .ok combined ∧
      ∀ setting, (Sets later setting → combined.get setting = overriding.get setting) ∧
        (¬ Sets later setting → combined.get setting = configuration.get setting) := by
  obtain ⟨read, grouped, rfl⟩ := of_tokens_eq_ok_iff.1 accepted
  obtain ⟨readLater, groupedLater, rfl⟩ := of_tokens_eq_ok_iff.1 acceptedLater
  have laterEq : assignments later = .ok readLater := assignments_eq_ok_iff.2 groupedLater
  refine ⟨readLater.foldl assign (ofAssignments read), ?_, fun setting => ?_⟩
  · rw [ofTokens, assignments_grouped grouped, laterEq]
    exact congrArg Except.ok (of_assignments_append read readLater)
  · rw [sets_iff groupedLater]
    constructor
    · exact get_foldl_assigned
    · intro unset
      exact get_foldl_other fun assignment inside same => unset ⟨assignment, inside, same⟩

theorem of_tokens_append_self (accepted : ofTokens tokens = .ok configuration) :
    ofTokens (tokens ++ tokens) = .ok configuration := by
  obtain ⟨combined, readTwice, settings⟩ := of_tokens_append_ok accepted accepted
  rw [readTwice]
  refine congrArg Except.ok (eq_of_get_eq fun setting => ?_)
  by_cases set : Sets tokens setting
  · exact (settings setting).1 set
  · exact (settings setting).2 set

theorem of_tokens_append_comm (accepted : ofTokens earlier = .ok configuration)
    (acceptedLater : ofTokens later = .ok overriding)
    (disjoint : ∀ setting, ¬ (Sets earlier setting ∧ Sets later setting)) :
    ofTokens (earlier ++ later) = ofTokens (later ++ earlier) := by
  obtain ⟨forward, readForward, settings⟩ := of_tokens_append_ok accepted acceptedLater
  obtain ⟨backward, readBackward, others⟩ := of_tokens_append_ok acceptedLater accepted
  rw [readForward, readBackward]
  refine congrArg Except.ok (eq_of_get_eq fun setting => ?_)
  by_cases setLater : Sets later setting
  · have unset : ¬ Sets earlier setting := fun set => disjoint setting ⟨set, setLater⟩
    rw [(settings setting).1 setLater, (others setting).2 unset]
  · rw [(settings setting).2 setLater]
    by_cases set : Sets earlier setting
    · rw [(others setting).1 set]
    · -- Neither list is about the setting, so both leave its default.
      rw [(others setting).2 set, get_of_not_sets accepted set,
        get_of_not_sets acceptedLater setLater]

/-- Tokens after accepted ones fail as they fail alone, and otherwise override exactly the settings
that they are about. So repeating all tokens changes nothing, and tokens about different settings
may change places. -/
theorem of_tokens_append (accepted : ofTokens earlier = .ok configuration) (later : List String) :
    (∀ failure, ofTokens later = .error failure →
      ofTokens (earlier ++ later) = .error failure) ∧
    (∀ overriding, ofTokens later = .ok overriding →
      ∃ combined, ofTokens (earlier ++ later) = .ok combined ∧
        ∀ setting, (Sets later setting → combined.get setting = overriding.get setting) ∧
          (¬ Sets later setting → combined.get setting = configuration.get setting)) ∧
    ofTokens (earlier ++ earlier) = ofTokens earlier ∧
    (∀ overriding, ofTokens later = .ok overriding →
      (∀ setting, ¬ (Sets earlier setting ∧ Sets later setting)) →
      ofTokens (earlier ++ later) = ofTokens (later ++ earlier)) := by
  refine ⟨fun _ => of_tokens_append_error accepted, fun _ => of_tokens_append_ok accepted, ?_,
    fun _ => of_tokens_append_comm accepted⟩
  rw [accepted]
  exact of_tokens_append_self accepted

/-- Each list gives a value that is spelled like a flag of the other. The values do not count. -/
theorem of_tokens_append_spelled_alike :
    let earlier := ["-o", "-debug", "-gcc"]
    let later := ["-srcdir", "-o", "-debug"]
    (∃ combined, ofTokens (earlier ++ later) = .ok combined ∧ combined.output = "-debug" ∧
      combined.sourceDir = "-o" ∧ combined.profile = .debug ∧ combined.compiler = .gcc) ∧
    ofTokens (earlier ++ later) = ofTokens (later ++ earlier) ∧
    ofTokens (later ++ ["-o"]) = .error (.missingValue "-o") := by
  intro earlier later
  have accepted : ofTokens earlier = .ok { output := "-debug", compiler := .gcc } := rfl
  have acceptedLater : ofTokens later = .ok { sourceDir := "-o", profile := .debug } := rfl
  have sets : ∀ setting, Sets earlier setting ↔ setting = .text .output ∨ setting = .compiler := by
    intro setting
    have grouped : Grouped earlier [.write .output "-debug", .choose (.compiler .gcc)] :=
      assignments_eq_ok_iff.1 rfl
    simp [sets_iff grouped, Assignment.setting, Choice.setting, eq_comm]
  have setsLater :
      ∀ setting, Sets later setting ↔ setting = .text .sourceDir ∨ setting = .profile := by
    intro setting
    have grouped : Grouped later [.write .sourceDir "-o", .choose (.profile .debug)] :=
      assignments_eq_ok_iff.1 rfl
    simp [sets_iff grouped, Assignment.setting, Choice.setting, eq_comm]
  obtain ⟨-, overrides, -, commutes⟩ := of_tokens_append accepted later
  obtain ⟨fails, -⟩ := of_tokens_append acceptedLater ["-o"]
  refine ⟨?_, ?_, fails _ rfl⟩
  · obtain ⟨combined, readBoth, settings⟩ := overrides _ acceptedLater
    refine ⟨combined, readBoth, ?_, ?_, ?_, ?_⟩
    · exact (settings (.text .output)).2 (by simp [setsLater])
    · exact (settings (.text .sourceDir)).1 (by simp [setsLater])
    · exact (settings .profile).1 (by simp [setsLater])
    · exact (settings .compiler).2 (by simp [setsLater])
  · apply commutes _ acceptedLater
    intro setting both
    rw [sets, setsLater] at both
    rcases both with ⟨rfl | rfl, other | other⟩ <;> simp at other

end MakePlan.Configuration
