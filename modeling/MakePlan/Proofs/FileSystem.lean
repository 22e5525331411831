import MakePlan.FileSystem
import MakePlan.Proofs.Result

/-!
# What a write leaves behind

A write gives one location its content and leaves every other as it was. No directory is lost by it
and nothing that existed is gone, so each path still leads where it led.
-/

namespace MakePlan

set_option autoImplicit false

section Contents

variable {place other : Location} {content : ByteArray}

theorem lookup_content (entry : Location × ByteArray) (rest : List (Location × ByteArray)) :
    (entry :: rest).lookup place = if entry.1 = place then some entry.2 else rest.lookup place := by
  obtain ⟨key, held⟩ := entry
  rw [List.lookup_cons]
  by_cases same : key = place
  · simp [same]
  · have apart : (place == key) = false := beq_false_of_ne fun equal => same equal.symm
    rw [apart, if_neg same]

theorem lookup_put_content_self (files : List (Location × ByteArray)) :
    (putContent place content files).lookup place = some content := by
  induction files with
  | nil =>
      rw [putContent, lookup_content, if_pos rfl]
  | cons entry rest induction =>
      rw [putContent]
      by_cases same : entry.1 = place
      · rw [if_pos same, lookup_content, if_pos rfl]
      · rw [if_neg same, lookup_content, if_neg same]
        exact induction

theorem lookup_put_content_other (apart : other ≠ place) (files : List (Location × ByteArray)) :
    (putContent place content files).lookup other = files.lookup other := by
  induction files with
  | nil =>
      rw [putContent, lookup_content, if_neg apart.symm]
  | cons entry rest induction =>
      rw [putContent]
      by_cases same : entry.1 = place
      · have passed : ¬ entry.1 = other := fun equal => apart (equal.symm.trans same)
        rw [if_pos same, lookup_content, lookup_content, if_neg apart.symm, if_neg passed]
      · rw [if_neg same, lookup_content, lookup_content, induction]

theorem put_content_put_content (earlier : ByteArray) (files : List (Location × ByteArray)) :
    putContent place content (putContent place earlier files) = putContent place content files := by
  induction files with
  | nil =>
      simp [putContent]
  | cons entry rest induction =>
      by_cases same : entry.1 = place
      · simp [putContent, same]
      · simp [putContent, same, induction]

end Contents

namespace FileSystem

variable {before after : FileSystem} {place other here : Location} {path : String}
variable {content : ByteArray}

theorem require_directory_eq_ok_iff {done : Unit} :
    before.requireDirectory place = .ok done ↔ before.item? place = some .directory := by
  unfold requireDirectory
  split
  · rename_i found
    simp [found]
  · rename_i found
    simp [found]
  · rename_i missing
    simp [missing]

/-- A step starts in a directory and stays there, goes up, or goes to something that exists. -/
theorem step_eq_ok_iff {part : String} :
    before.step here part = .ok place ↔
      before.item? here = some .directory ∧
        ((part = "." ∧ here = place) ∨ (part = ".." ∧ here.dropLast = place) ∨
          (part ≠ "." ∧ part ≠ ".." ∧ ¬ nameLimit < part.utf8ByteSize ∧
            (before.item? (here ++ [part])).isSome = true ∧ here ++ [part] = place)) := by
  unfold step
  simp only [Result.bind_eq_ok, require_directory_eq_ok_iff, exists_const]
  apply and_congr_right
  intro around
  by_cases stay : part = "."
  · simp [stay]
  by_cases up : part = ".."
  · simp [up]
  by_cases long : nameLimit < part.utf8ByteSize
  · simp [stay, up, long]
  by_cases stands : (before.item? (here ++ [part])).isSome = true
  · simp [stay, up, long, stands]
  · simp [stay, up, long, stands]

def locate (system : FileSystem) (path : String) : Except IoError Location := do
  checkPath path
  system.walk (Path.ofString path).parts (system.start (Path.ofString path))

theorem read_eq_ok_iff :
    before.read path = .ok content ↔
      ∃ place, before.locate path = .ok place ∧ before.item? place = some (.file content) ∧
        (Path.ofString path).slashed = false := by
  unfold read locate
  simp only [Result.bind_eq_ok]
  constructor
  · rintro ⟨_, checked, place, reached, found⟩
    refine ⟨place, ⟨_, checked, reached⟩, ?_⟩
    split at found
    · rename_i held item
      split at found
      · contradiction
      · rename_i openEnd
        rw [Except.ok.injEq] at found
        rw [item, found]
        exact ⟨rfl, by simpa using openEnd⟩
    · contradiction
    · contradiction
  · rintro ⟨place, ⟨_, checked, reached⟩, item, openEnd⟩
    refine ⟨_, checked, place, reached, ?_⟩
    simp [item, openEnd]

/-- A write needs a directory around the place and no directory at it. -/
theorem target_eq_ok_iff :
    before.target path = .ok place ↔
      checkPath path = .ok () ∧ ∃ last parent,
        (Path.ofString path).parts.getLast? = some last ∧
        before.walk (Path.ofString path).parts.dropLast (before.start (Path.ofString path)) =
          .ok parent ∧
        before.item? parent = some .directory ∧
        ¬ ((Path.ofString path).slashed = true ∨ last = "." ∨ last = "..") ∧
        ¬ nameLimit < last.utf8ByteSize ∧
        before.item? (parent ++ [last]) ≠ some .directory ∧ parent ++ [last] = place := by
  unfold target
  simp only [Result.bind_eq_ok]
  constructor
  · rintro ⟨_, checked, found⟩
    refine ⟨checked, ?_⟩
    split at found
    · contradiction
    · rename_i last named
      obtain ⟨parent, reached, rest⟩ := Result.bind_eq_ok.1 found
      obtain ⟨_, around, found⟩ := Result.bind_eq_ok.1 rest
      refine ⟨last, parent, named, reached, require_directory_eq_ok_iff.1 around, ?_⟩
      split at found
      · contradiction
      · rename_i plain
        split at found
        · contradiction
        · rename_i short
          refine ⟨plain, short, ?_⟩
          split at found
          · contradiction
          · rename_i noDirectory
            exact ⟨fun item => noDirectory item, Except.ok.inj found⟩
  · rintro ⟨checked, last, parent, named, reached, around, plain, short, free, rfl⟩
    refine ⟨_, checked, ?_⟩
    simp only [named]
    refine Result.bind_eq_ok.2 ⟨parent, reached, ?_⟩
    refine Result.bind_eq_ok.2 ⟨(), require_directory_eq_ok_iff.2 around, ?_⟩
    rw [if_neg plain, if_neg short]
    split
    · rename_i item
      exact absurd item free
    · rfl

theorem write_eq_ok_iff :
    before.write path content = .ok after ↔
      ∃ place, before.target path = .ok place ∧
        after = { before with files := putContent place content before.files } := by
  unfold write
  rw [Result.bind_eq_ok]
  simp only [Except.ok.injEq, eq_comm]

/-- A location that is no directory has new content, and all others are as they were. -/
structure Filled (before after : FileSystem) (place : Location) (content : ByteArray) : Prop where
  free : before.item? place ≠ some .directory
  new : after.item? place = some (.file content)
  others : ∀ other, other ≠ place → after.item? other = before.item? other
  workingDirectory : after.workingDirectory = before.workingDirectory

theorem filled_put_content (free : before.item? place ≠ some .directory) :
    before.Filled { before with files := putContent place content before.files } place content := by
  refine ⟨free, ?_, ?_, rfl⟩
  · have noDirectory : ¬ (place = [] ∨ place ∈ before.directories) := by
      intro directory
      exact free (if_pos directory)
    rw [item?, if_neg noDirectory, lookup_put_content_self]
    rfl
  · intro other apart
    unfold item?
    rw [lookup_put_content_other apart]

/-- A write fills the location that its path means, whatever was there. -/
theorem filled_write (written : before.write path content = .ok after) :
    ∃ place, before.target path = .ok place ∧ before.Filled after place content := by
  obtain ⟨place, aimed, rfl⟩ := write_eq_ok_iff.1 written
  obtain ⟨-, last, parent, -, -, -, -, -, free, rfl⟩ := target_eq_ok_iff.1 aimed
  exact ⟨_, aimed, filled_put_content free⟩

namespace Filled

variable (filled : before.Filled after place content)

include filled

theorem directory (stands : before.item? other = some .directory) :
    after.item? other = some .directory := by
  have apart : other ≠ place := by
    intro same
    exact filled.free (same ▸ stands)
  rw [filled.others other apart]
  exact stands

theorem is_some (stands : (before.item? other).isSome) : (after.item? other).isSome := by
  by_cases same : other = place
  · rw [same, filled.new]
    rfl
  · rw [filled.others other same]
    exact stands

theorem step {part : String} (stepped : before.step other part = .ok here) :
    after.step other part = .ok here := by
  obtain ⟨around, moved⟩ := step_eq_ok_iff.1 stepped
  apply step_eq_ok_iff.2
  constructor
  · exact filled.directory around
  · rcases moved with stay | up | ⟨noStay, noUp, short, stands, same⟩
    · exact .inl stay
    · exact .inr (.inl up)
    · exact .inr (.inr ⟨noStay, noUp, short, filled.is_some stands, same⟩)

/-- Every step that could be taken can still be taken. -/
theorem walk {parts : List String} (walked : before.walk parts other = .ok here) :
    after.walk parts other = .ok here := by
  unfold FileSystem.walk at walked ⊢
  induction parts generalizing other with
  | nil => exact walked
  | cons part rest induction =>
      rw [List.foldlM_cons] at walked ⊢
      obtain ⟨next, stepped, walked⟩ := Result.bind_eq_ok.1 walked
      exact Result.bind_eq_ok.2 ⟨next, filled.step stepped, induction walked⟩

theorem start (parsed : Path) : after.start parsed = before.start parsed := by
  unfold FileSystem.start
  rw [filled.workingDirectory]

theorem locate (located : before.locate path = .ok here) : after.locate path = .ok here := by
  unfold FileSystem.locate at located ⊢
  obtain ⟨_, checked, walked⟩ := Result.bind_eq_ok.1 located
  rw [filled.start]
  exact Result.bind_eq_ok.2 ⟨_, checked, filled.walk walked⟩

theorem read_other (apart : before.locate path ≠ .ok place) {held : ByteArray}
    (loaded : before.read path = .ok held) : after.read path = .ok held := by
  obtain ⟨here, reached, item, openEnd⟩ := read_eq_ok_iff.1 loaded
  have elsewhere : here ≠ place := by
    intro same
    exact apart (same ▸ reached)
  have sameItem : after.item? here = some (.file held) := by
    rw [filled.others here elsewhere]
    exact item
  exact read_eq_ok_iff.2 ⟨here, filled.locate reached, sameItem, openEnd⟩

theorem read_text_other (apart : before.locate path ≠ .ok place) {text : String}
    (loaded : before.readText path = .ok text) : after.readText path = .ok text := by
  obtain ⟨held, found, decoded⟩ := Result.bind_eq_ok.1 loaded
  exact Result.bind_eq_ok.2 ⟨held, filled.read_other apart found, decoded⟩

theorem target (aimed : before.target path = .ok place) : after.target path = .ok place := by
  obtain ⟨checked, last, parent, named, reached, around, plain, short, -, same⟩ :=
    target_eq_ok_iff.1 aimed
  have stillReached : after.walk (Path.ofString path).parts.dropLast
      (after.start (Path.ofString path)) = .ok parent := by
    rw [filled.start]
    exact filled.walk reached
  have stillFree : after.item? (parent ++ [last]) ≠ some .directory := by
    rw [same, filled.new]
    simp
  apply target_eq_ok_iff.2
  exact ⟨checked, last, parent, named, stillReached, filled.directory around, plain, short,
    stillFree, same⟩

theorem read_self (aimed : before.target path = .ok place) : after.read path = .ok content := by
  obtain ⟨checked, last, parent, named, reached, around, plain, short, -, same⟩ :=
    target_eq_ok_iff.1 aimed
  rw [not_or, not_or] at plain
  -- The last step goes to the new file, which may not have been there for the write to step on.
  have arrived : after.step parent last = .ok place := by
    apply step_eq_ok_iff.2
    refine ⟨filled.directory around, .inr (.inr ⟨plain.2.1, plain.2.2, short, ?_⟩)⟩
    rw [same, filled.new]
    exact ⟨rfl, rfl⟩
  have whole : (Path.ofString path).parts.dropLast ++ [last] = (Path.ofString path).parts := by
    obtain ⟨front, cut⟩ := List.getLast?_eq_some_iff.1 named
    rw [cut, List.dropLast_concat]
  have located : after.locate path = .ok place := by
    apply Result.bind_eq_ok.2
    refine ⟨_, checked, ?_⟩
    rw [filled.start, FileSystem.walk, ← whole, List.foldlM_append]
    apply Result.bind_eq_ok.2
    refine ⟨parent, filled.walk reached, ?_⟩
    rw [List.foldlM_cons, arrived]
    rfl
  exact read_eq_ok_iff.2 ⟨place, located, filled.new, by simpa using plain.1⟩

end Filled

/-- Writing the same content again changes nothing. -/
theorem write_write (written : before.write path content = .ok after) :
    after.write path content = .ok after := by
  obtain ⟨place, aimed, filled⟩ := filled_write written
  obtain ⟨there, aimedThere, same⟩ := write_eq_ok_iff.1 written
  have onePlace : place = there := by
    rw [aimed, Except.ok.injEq] at aimedThere
    exact aimedThere
  subst onePlace
  apply write_eq_ok_iff.2
  refine ⟨place, filled.target aimed, ?_⟩
  rw [same, put_content_put_content]

end FileSystem

end MakePlan
