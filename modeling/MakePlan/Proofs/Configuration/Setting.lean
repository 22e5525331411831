import MakePlan.Configuration.Flag

/-!
# Settings one by one

A configuration is determined by its eight settings. An assignment gives one of them a value that
does not depend on the configuration before it and leaves the others alone, so of a sequence of
assignments only the last of each setting counts.
-/

namespace MakePlan

set_option autoImplicit false

inductive Setting
  | compiler
  | profile
  | platform
  | byteOrder
  | text (slot : Slot)
  | testMode
  deriving DecidableEq, Repr

abbrev Setting.Value : Setting → Type
  | compiler => Compiler
  | profile => Profile
  | platform => Platform
  | byteOrder => ByteOrder
  | text _ => String
  | testMode => Bool

def Choice.setting : Choice → Setting
  | compiler _ => .compiler
  | profile _ => .profile
  | platform _ => .platform
  | byteOrder _ => .byteOrder
  | testMode => .testMode

def Assignment.setting : Assignment → Setting
  | choose choice => choice.setting
  | write slot _ => .text slot

/-- The setting that a flag is about. -/
def Flag.setting (flag : Flag) : Setting :=
  match flag.effect with
  | .choose choice => choice.setting
  | .write slot _ => .text slot

namespace Configuration

variable {first second : Configuration} {assignment : Assignment} {assignments : List Assignment}
variable {setting : Setting}

def get (configuration : Configuration) : (setting : Setting) → setting.Value
  | .compiler => configuration.compiler
  | .profile => configuration.profile
  | .platform => configuration.platform
  | .byteOrder => configuration.byteOrder
  | .text slot => configuration.read slot
  | .testMode => configuration.testMode

/-- Nothing but the settings tells configurations apart. -/
theorem eq_of_get_eq (same : ∀ setting, first.get setting = second.get setting) :
    first = second := by
  have compiler : first.compiler = second.compiler := same .compiler
  have profile : first.profile = second.profile := same .profile
  have platform : first.platform = second.platform := same .platform
  have byteOrder : first.byteOrder = second.byteOrder := same .byteOrder
  have output : first.output = second.output := same (.text .output)
  have sourceDir : first.sourceDir = second.sourceDir := same (.text .sourceDir)
  have buildDir : first.buildDir = second.buildDir := same (.text .buildDir)
  have testMode : first.testMode = second.testMode := same .testMode
  cases first
  cases second
  simp only [mk.injEq]
  exact ⟨compiler, profile, platform, byteOrder, output, sourceDir, buildDir, testMode⟩

theorem read_assign_write (slot other : Slot) (value : String) :
    (first.assign (.write slot value)).read other =
      if other = slot then value else first.read other := by
  cases slot <;> cases other <;> rfl

theorem get_assign_other (apart : assignment.setting ≠ setting) :
    (first.assign assignment).get setting = first.get setting := by
  cases assignment with
  | choose choice =>
      cases choice <;> cases setting <;>
        simp_all [Assignment.setting, Choice.setting, assign, get, read]
  | write slot value =>
      cases setting with
      | text other =>
          have otherSlot : other ≠ slot := fun same => apart (congrArg Setting.text same.symm)
          exact (read_assign_write slot other value).trans (if_neg otherSlot)
      | _ => cases slot <;> rfl

theorem get_assign_self :
    (first.assign assignment).get assignment.setting =
      (second.assign assignment).get assignment.setting := by
  cases assignment with
  | choose choice => cases choice <;> rfl
  | write slot value => cases slot <;> rfl

theorem get_foldl_other (apart : ∀ assignment ∈ assignments, assignment.setting ≠ setting) :
    (assignments.foldl assign first).get setting = first.get setting := by
  induction assignments generalizing first with
  | nil => rfl
  | cons assignment rest induction =>
      have restApart : ∀ other ∈ rest, other.setting ≠ setting :=
        fun other inside => apart other (List.mem_cons_of_mem _ inside)
      rw [List.foldl_cons, induction restApart, get_assign_other (apart _ List.mem_cons_self)]

theorem get_foldl_assigned (assigned : ∃ assignment ∈ assignments, assignment.setting = setting) :
    (assignments.foldl assign first).get setting =
      (assignments.foldl assign second).get setting := by
  induction assignments generalizing first second with
  | nil => simp at assigned
  | cons assignment rest induction =>
      rw [List.foldl_cons, List.foldl_cons]
      by_cases later : ∃ other ∈ rest, other.setting = setting
      · exact induction later
      · -- No later assignment touches the setting, so this one decides it.
        have restApart : ∀ other ∈ rest, other.setting ≠ setting :=
          fun other inside same => later ⟨other, inside, same⟩
        have here : assignment.setting = setting := by
          obtain ⟨other, inside, same⟩ := assigned
          rcases List.mem_cons.1 inside with firstOne | restOne
          · rw [← firstOne]
            exact same
          · exact absurd same (restApart other restOne)
        subst here
        rw [get_foldl_other restApart, get_foldl_other restApart, get_assign_self]

theorem of_assignments_append (earlier later : List Assignment) :
    ofAssignments (earlier ++ later) = later.foldl assign (ofAssignments earlier) :=
  List.foldl_append

end Configuration

end MakePlan
