/-!
# Maps from names

A finite map kept as a list of entries in increasing order of name. Names compare by code point,
which is also the order of their UTF-8 bytes, so the entries have one order only.
-/

namespace MakePlan

set_option autoImplicit false

def insertEntry {α : Type} (name : String) (value : α) : List (String × α) → List (String × α)
  | [] => [(name, value)]
  | entry :: rest =>
      if name < entry.1 then (name, value) :: entry :: rest
      else if name = entry.1 then (name, value) :: rest
      else entry :: insertEntry name value rest

def Increasing {α : Type} (entries : List (String × α)) : Prop :=
  entries.Pairwise fun earlier later => earlier.1 < later.1

theorem name_mem_insert_entry {α : Type} {name : String} {value : α}
    {entries : List (String × α)} {entry : (String × α)}
    (inside : entry ∈ insertEntry name value entries) :
    entry.1 = name ∨ entry ∈ entries := by
  induction entries with
  | nil => simp_all [insertEntry]
  | cons head rest induction =>
      simp only [insertEntry] at inside
      split at inside
      · rcases List.mem_cons.1 inside with here | there
        · exact .inl (by simp [here])
        · exact .inr there
      · split at inside
        · rcases List.mem_cons.1 inside with here | there
          · exact .inl (by simp [here])
          · exact .inr (List.mem_cons_of_mem _ there)
        · rcases List.mem_cons.1 inside with here | there
          · exact .inr (by simp [here])
          · rcases induction there with same | old
            · exact .inl same
            · exact .inr (List.mem_cons_of_mem _ old)

theorem increasing_insert_entry {α : Type} (name : String) (value : α)
    {entries : List (String × α)} (increasing : Increasing entries) :
    Increasing (insertEntry name value entries) := by
  induction entries with
  | nil => simp [insertEntry, Increasing]
  | cons head rest induction =>
      have ⟨headLeast, restIncreasing⟩ := List.pairwise_cons.1 increasing
      simp only [insertEntry]
      split
      · rename_i before
        refine List.pairwise_cons.2 ⟨fun entry inside => ?_, increasing⟩
        rcases List.mem_cons.1 inside with here | there
        · exact here ▸ before
        · exact String.lt_trans before (headLeast entry there)
      · split
        · rename_i same
          exact List.pairwise_cons.2
            ⟨fun entry inside => by simpa [same] using headLeast entry inside, restIncreasing⟩
        · rename_i notBefore different
          have after : head.1 < name := Decidable.byContradiction fun notAfter =>
            different (String.le_antisymm (String.not_lt.1 notAfter) (String.not_lt.1 notBefore))
          refine List.pairwise_cons.2 ⟨fun entry inside => ?_, induction restIncreasing⟩
          rcases name_mem_insert_entry inside with same | old
          · exact same ▸ after
          · exact headLeast entry old

theorem lookup_entry {α : Type} (other : String) (entry : String × α)
    (rest : List (String × α)) :
    (entry :: rest).lookup other =
      if other = entry.1 then some entry.2 else rest.lookup other := by
  rcases entry with ⟨name, value⟩
  by_cases same : other = name
  · simp [same]
  · simp [List.lookup_cons, same, beq_false_of_ne same]

theorem lookup_insert_entry {α : Type} (name other : String) (value : α)
    (entries : List (String × α)) :
    (insertEntry name value entries).lookup other =
      if other = name then some value else entries.lookup other := by
  induction entries with
  | nil => simp [insertEntry, lookup_entry]
  | cons head rest induction =>
      simp only [insertEntry]
      split
      · exact lookup_entry other (name, value) (head :: rest)
      · split
        · rename_i replaced
          by_cases same : other = name <;> simp [lookup_entry, same, ← replaced]
        · rename_i different
          by_cases here : other = head.1
          · have otherName : ¬ head.1 = name := fun same => different same.symm
            simp [lookup_entry, here, otherName]
          · simp [lookup_entry, here, induction]

theorem lookup_filter_name {α : Type} (name other : String) (entries : List (String × α)) :
    (entries.filter (·.1 ≠ name)).lookup other =
      if other = name then none else entries.lookup other := by
  induction entries with
  | nil => simp
  | cons head rest induction =>
      by_cases dropped : head.1 = name
      · rw [List.filter_cons_of_neg (by simp [dropped]), induction, lookup_entry, dropped]
        split <;> rfl
      · rw [List.filter_cons_of_pos (by simp [dropped]), lookup_entry, induction, lookup_entry]
        by_cases here : other = head.1
        · simp [here, dropped]
        · simp [here]

structure NameMap (α : Type) where
  entries : List (String × α)
  increasing : Increasing entries

namespace NameMap

variable {α : Type}

def empty : NameMap α := ⟨[], .nil⟩

def insert (map : NameMap α) (name : String) (value : α) : NameMap α :=
  ⟨insertEntry name value map.entries, increasing_insert_entry name value map.increasing⟩

def erase (map : NameMap α) (name : String) : NameMap α :=
  ⟨map.entries.filter (·.1 ≠ name), map.increasing.filter _⟩

def find? (map : NameMap α) (name : String) : Option α := map.entries.lookup name

@[simp] theorem find?_insert (map : NameMap α) (name other : String) (value : α) :
    (map.insert name value).find? other = if other = name then some value else map.find? other :=
  lookup_insert_entry name other value map.entries

@[simp] theorem find?_erase (map : NameMap α) (name other : String) :
    (map.erase name).find? other = if other = name then none else map.find? other :=
  lookup_filter_name name other map.entries

/-- The map of the given entries; of two with one name the later counts. -/
def ofList (entries : List (String × α)) : NameMap α :=
  entries.foldl (fun map entry => map.insert entry.1 entry.2) empty

/-- Whether there is an entry of that name. -/
def Lists (map : NameMap α) (name : String) : Prop := name ∈ map.entries.map (·.1)

instance (map : NameMap α) (name : String) : Decidable (map.Lists name) :=
  inferInstanceAs (Decidable (name ∈ map.entries.map (·.1)))

theorem find?_eq_none_iff {map : NameMap α} {name : String} :
    map.find? name = none ↔ ¬ map.Lists name := by
  simp only [find?, List.lookup_eq_none_iff, bne_iff_ne, Lists, List.mem_map, not_exists, not_and]
  exact forall_congr' fun entry => forall_congr' fun _ => ne_comm

theorem lists_of_find? {map : NameMap α} {name : String} {value : α}
    (found : map.find? name = some value) : map.Lists name := by
  apply Decidable.byContradiction
  intro unlisted
  rw [find?_eq_none_iff.2 unlisted] at found
  contradiction

def values (map : NameMap α) : List α := map.entries.map (·.2)

end NameMap

end MakePlan
