import MakePlan.Catalog.Schema
import MakePlan.Proofs.Catalog.Validation
import MakePlan.Proofs.Result

/-!
# The shape of a catalog

Which TOML tables can be read as a catalog. A record is read in two passes: the first goes through
the entries, where a known key demands a type, and the second looks the fields up. So a record is
read exactly when no entry is refused and no required field is missing. What stands under another
key only has to be readable.
-/

namespace MakePlan

set_option autoImplicit false

theorem lookup_eq_none_iff_absent {α : Type} {entries : List (String × α)} {name : String} :
    entries.lookup name = none ↔ ∀ value, (name, value) ∉ entries := by
  rw [List.lookup_eq_none_iff]
  constructor
  · intro other value inside
    simpa using other _ inside
  · intro absent entry inside
    rw [bne_iff_ne]
    intro same
    exact absent entry.2 (same ▸ inside)

namespace Toml

inductive Value.Holds (scalar : Scalar) : Value → Prop
  | here : Holds scalar (.scalar scalar)
  | item {items : List Value} {item : Value} (inside : item ∈ items) (holds : Holds scalar item) :
      Holds scalar (.array items)
  | entry {entries : List (String × Value)} {entry : String × Value} (inside : entry ∈ entries)
      (holds : Holds scalar entry.2) : Holds scalar (.table entries)

/-- All numbers in a value can be read. -/
def Value.Readable (value : Value) : Prop := ∀ form, ¬ value.Holds (.unreadable form)

def Readable (entries : List (String × Value)) : Prop := ∀ entry ∈ entries, entry.2.Readable

theorem readable_array_iff {items : List Value} :
    (Value.array items).Readable ↔ ∀ item ∈ items, item.Readable := by
  constructor
  · intro readable item inside form holds
    exact readable form (.item inside holds)
  · intro readable form holds
    cases holds with
    | item inside holds => exact readable _ inside form holds

theorem readable_table_iff {entries : List (String × Value)} :
    (Value.table entries).Readable ↔ Readable entries := by
  constructor
  · intro readable entry inside form holds
    exact readable form (.entry inside holds)
  · intro readable form holds
    cases holds with
    | entry inside holds => exact readable _ inside form holds

theorem readable_scalar_iff {scalar : Scalar} :
    (Value.scalar scalar).Readable ↔ scalar.unreadable? = none := by
  constructor
  · intro readable
    cases scalar with
    | unreadable form => exact absurd .here (readable form)
    | _ => rfl
  · intro noneFound form holds
    cases holds
    simp [Scalar.unreadable?] at noneFound

mutual

theorem readable_iff : (value : Value) → (value.Readable ↔ value.unreadable? = none)
  | .scalar scalar => by rw [readable_scalar_iff, Value.unreadable?]
  | .array items => by rw [readable_array_iff, Value.unreadable?, readable_items_iff items]
  | .table entries => by rw [readable_table_iff, Value.unreadable?, readable_entries_iff entries]

theorem readable_items_iff :
    (items : List Value) → ((∀ item ∈ items, item.Readable) ↔ unreadableItem? items = none)
  | [] => by simp [unreadableItem?]
  | item :: rest => by
      rw [List.forall_mem_cons, readable_iff item, readable_items_iff rest]
      simp [unreadableItem?]

theorem readable_entries_iff :
    (entries : List (String × Value)) → (Readable entries ↔ unreadableEntry? entries = none)
  | [] => by simp [Readable, unreadableEntry?]
  | (key, value) :: rest => by
      rw [Readable, List.forall_mem_cons, readable_iff value, ← Readable,
        readable_entries_iff rest]
      simp [ unreadableEntry?]

end

namespace Value

def IsText (value : Value) : Prop := ∃ content, value = .scalar (.text content)

def IsArray (value : Value) : Prop := ∃ items, value = .array items

def IsMoment (value : Value) : Prop := ∃ moment, value = .scalar (.moment moment)

def IsTexts (value : Value) : Prop :=
  ∃ items, value = .array items ∧ ∀ item ∈ items, item.IsText

def IsTableOf (demand : Value → Prop) (value : Value) : Prop :=
  ∃ entries, value = .table entries ∧ ∀ entry ∈ entries, demand entry.2

end Value

/-- A field of a record, with what it demands of its value. -/
structure Field where
  name : String
  demand : Value → Prop
  required : Bool := true

/-- The field is there if it has to be, and its value is as demanded. -/
def Field.Met (field : Field) (entries : List (String × Value)) : Prop :=
  (field.required = true → ∃ value, (field.name, value) ∈ entries) ∧
    ∀ value, (field.name, value) ∈ entries → field.demand value

def Value.IsRecord (fields : List Field) (value : Value) : Prop :=
  ∃ entries, value = .table entries ∧ ∀ field ∈ fields, field.Met entries

end Toml

namespace Schema

open Result Toml

theorem not_succeeds_refuse {α : Type} (expected : Shape) (value : Toml.Value) :
    ¬ Succeeds (refuse expected value : Except Mismatch α) := by
  intro read
  cases read with
  | intro result read =>
      unfold refuse at read
      split at read
      · contradiction
      · contradiction

theorem succeeds_text_iff {value : Toml.Value} : Succeeds (text value) ↔ value.IsText := by
  unfold text
  split
  · rename_i content
    exact iff_of_true (succeeds_ok content) ⟨content, rfl⟩
  · rename_i other
    apply iff_of_false (not_succeeds_refuse _ _)
    intro isText
    cases isText with
    | intro content isText => exact other content isText

theorem succeeds_texts_iff {value : Toml.Value} : Succeeds (texts value) ↔ value.IsTexts := by
  unfold texts
  split
  · rename_i items
    simp only [succeeds_map_m_iff, succeeds_text_iff, Value.IsTexts, Value.array.injEq,
      exists_eq_left']
  · rename_i other
    apply iff_of_false (not_succeeds_refuse _ _)
    intro isTexts
    cases isTexts with
    | intro items isTexts => exact other items isTexts.1

theorem skip_eq_ok_iff {value : Toml.Value} : skip value = .ok () ↔ value.Readable := by
  rw [readable_iff]
  unfold skip
  split <;> simp_all

theorem readable_of_is_text {value : Toml.Value} (isText : value.IsText) : value.Readable := by
  obtain ⟨content, rfl⟩ := isText
  exact readable_scalar_iff.2 rfl

theorem readable_of_is_texts {value : Toml.Value} (isTexts : value.IsTexts) : value.Readable := by
  obtain ⟨items, rfl, allText⟩ := isTexts
  exact readable_array_iff.2 fun item inside => readable_of_is_text (allText item inside)

theorem entries?_eq_some_iff {value : Toml.Value} {entries : List (String × Toml.Value)} :
    entries? value = some entries ↔
      value = .table entries ∨
        ∃ moment, value = .scalar (.moment moment) ∧
          entries = [(Moment.key, .scalar (.text moment.text))] := by
  unfold entries?
  split <;> simp_all [eq_comm]

theorem check_eq_ok_iff {α : Type} {outcome : Except Mismatch α} :
    outcome.map (fun _ => ()) = .ok () ↔ Succeeds outcome := by
  rw [map_eq_ok]
  simp only [and_true]
  rfl

section Records

variable {α β : Type} {check : String → Toml.Value → Except Mismatch Unit}
  {entries : List (String × Toml.Value)}

theorem check_entries_eq_ok_iff :
    checkEntries check entries = .ok () ↔ ∀ entry ∈ entries, check entry.1 entry.2 = .ok () := by
  unfold checkEntries
  induction entries with
  | nil => simp [pure, Except.pure]
  | cons entry rest induction =>
      rw [List.forall_mem_cons, ← induction]
      exact bind_unit_eq_ok

theorem field_named (entries : List (String × Toml.Value)) (place : Nat) (name : String)
    (read : Reader α) :
    (Source.named entries).field place name read =
      ((entries.lookup name).map read).getD (.error (.missingField name)) := by
  unfold Source.field
  rw [show (Source.named entries).find? place name = entries.lookup name from rfl]
  cases entries.lookup name <;> rfl

theorem optional_field_named (entries : List (String × Toml.Value)) (place : Nat) (name : String)
    (read : Reader α) (absent : α) :
    (Source.named entries).optionalField place name read absent =
      ((entries.lookup name).map read).getD (.ok absent) := by
  unfold Source.optionalField
  rw [show (Source.named entries).find? place name = entries.lookup name from rfl]
  cases entries.lookup name <;> rfl

theorem succeeds_field_iff (passed : checkEntries check entries = .ok ()) {name : String}
    {read : Reader α} (agree : ∀ value, check name value = (read value).map fun _ => ())
    (place : Nat) {next : α → Except Mismatch β} {rest : Prop}
    (continued : ∀ result, Succeeds (next result) ↔ rest) :
    Succeeds ((Source.named entries).field place name read >>= next) ↔
      (∃ value, (name, value) ∈ entries) ∧ rest := by
  simp only [succeeds_bind_iff, continued, exists_and_right]
  apply and_congr_left
  intro _
  rw [field_named]
  cases found : entries.lookup name with
  | none => exact iff_of_false (by simp) (not_exists.2 (lookup_eq_none_iff_absent.1 found))
  | some value =>
      have inside := mem_of_lookup_eq_some found
      have accepted := check_entries_eq_ok_iff.1 passed _ inside
      rw [agree, check_eq_ok_iff] at accepted
      exact iff_of_true accepted ⟨value, inside⟩

theorem succeeds_optional_field_iff (passed : checkEntries check entries = .ok ()) {name : String}
    {read : Reader α} (agree : ∀ value, check name value = (read value).map fun _ => ())
    (place : Nat) (absent : α) {next : α → Except Mismatch β} {rest : Prop}
    (continued : ∀ result, Succeeds (next result) ↔ rest) :
    Succeeds ((Source.named entries).optionalField place name read absent >>= next) ↔ rest := by
  simp only [succeeds_bind_iff, continued, exists_and_right]
  apply and_iff_right
  rw [optional_field_named]
  cases found : entries.lookup name with
  | none => exact ⟨absent, rfl⟩
  | some value =>
      have accepted := check_entries_eq_ok_iff.1 passed _ (mem_of_lookup_eq_some found)
      rw [agree, check_eq_ok_iff] at accepted
      exact accepted

variable {build : Source → Except Mismatch α} {fields : List Field}

/-- A record whose first pass accepts what the fields demand and skips what can be read, and whose
second pass misses no other fields than the required ones. -/
theorem succeeds_fields_iff
    (accepts : ∀ field ∈ fields, ∀ value, (field.name, value) ∈ entries →
      (check field.name value = .ok () ↔ value.Readable ∧ field.demand value))
    (skips : ∀ key value, (∀ field ∈ fields, field.name ≠ key) →
      (check key value = .ok () ↔ value.Readable))
    (builds : checkEntries check entries = .ok () →
      (Succeeds (build (.named entries)) ↔
        ∀ field ∈ fields, field.required = true → ∃ value, (field.name, value) ∈ entries)) :
    Succeeds (checkEntries check entries >>= fun _ => build (.named entries)) ↔
      Readable entries ∧ ∀ field ∈ fields, field.Met entries := by
  have passedIff : checkEntries check entries = .ok () ↔
      Readable entries ∧
        ∀ field ∈ fields, ∀ value, (field.name, value) ∈ entries → field.demand value := by
    rw [check_entries_eq_ok_iff]
    constructor
    · intro passed
      constructor
      · intro entry inside
        by_cases known : ∃ field ∈ fields, field.name = entry.1
        · obtain ⟨field, known, same⟩ := known
          have insideField : (field.name, entry.2) ∈ entries := by rw [same]; exact inside
          exact ((accepts field known _ insideField).1 (passed _ insideField)).1
        · apply (skips entry.1 entry.2 _).1 (passed entry inside)
          intro field listed same
          exact known ⟨field, listed, same⟩
      · intro field known value inside
        exact ((accepts field known value inside).1 (passed _ inside)).2
    · rintro ⟨readable, demanded⟩ entry inside
      by_cases known : ∃ field ∈ fields, field.name = entry.1
      · obtain ⟨field, known, same⟩ := known
        have insideField : (field.name, entry.2) ∈ entries := by rw [same]; exact inside
        rw [← same]
        exact (accepts field known _ insideField).2
          ⟨readable entry inside, demanded field known _ insideField⟩
      · apply (skips entry.1 entry.2 _).2 (readable entry inside)
        intro field listed same
        exact known ⟨field, listed, same⟩
  simp only [Field.Met, imp_and, forall_and]
  rw [and_left_comm, ← passedIff, and_comm]
  simp only [Succeeds, bind_unit_eq_ok, exists_and_left]
  exact and_congr_right builds

theorem succeeds_record_iff {shape : Shape} {size : Nat} {value : Toml.Value}
    (tabular : ¬ value.IsArray)
    (described : ∀ entries,
      Succeeds (checkEntries check entries >>= fun _ => build (.named entries)) ↔
        Readable entries ∧ ∀ field ∈ fields, field.Met entries)
    (timeless : ∃ field ∈ fields, field.required = true ∧ field.name ≠ Moment.key) :
    Succeeds (record shape size check build value) ↔ value.Readable ∧ value.IsRecord fields := by
  unfold record
  cases found : entries? value with
  | none =>
      apply iff_of_false
      · cases value with
        | array items => exact absurd ⟨items, rfl⟩ tabular
        | scalar scalar => exact not_succeeds_refuse _ _
        | table entries => exact not_succeeds_refuse _ _
      · rintro ⟨-, entries, rfl, -⟩
        simp [entries?] at found
  | some entries =>
      rcases entries?_eq_some_iff.1 found with rfl | ⟨moment, rfl, rfl⟩
      · simp only [Value.IsRecord, Value.table.injEq, exists_eq_left', readable_table_iff]
        exact described entries
      · apply iff_of_false
        · -- A date or time counts as a table with one entry, which is not the required one.
          intro read
          obtain ⟨field, known, required, named⟩ := timeless
          obtain ⟨value, inside⟩ := (((described _).1 read).2 field known).1 required
          rw [List.mem_singleton] at inside
          exact named (congrArg Prod.fst inside)
        · rintro ⟨-, entries, table, -⟩
          exact absurd table (by simp)

end Records

section Toolchain

variable {entries : List (String × Toml.Value)} {value : Toml.Value}

def toolchainFields : List Field :=
  toolchainKeys.map fun name => { name, demand := Value.IsText }

theorem check_toolchain_known {name : String} (known : name ∈ toolchainKeys) (value : Toml.Value) :
    checkToolchain name value = (text value).map fun _ => () :=
  if_pos known

theorem check_toolchain_foreign (key : String) (value : Toml.Value)
    (foreign : ∀ field ∈ toolchainFields, field.name ≠ key) :
    checkToolchain key value = .ok () ↔ value.Readable := by
  simp only [toolchainFields, List.forall_mem_map] at foreign
  rw [checkToolchain, if_neg fun known => foreign key known rfl, skip_eq_ok_iff]

theorem succeeds_build_toolchain_iff (passed : checkEntries checkToolchain entries = .ok ()) :
    Succeeds (buildToolchain (.named entries)) ↔
      ∀ name ∈ toolchainKeys, ∃ value, (name, value) ∈ entries := by
  simp only [toolchainKeys, List.forall_mem_cons]
  iterate 6
    apply succeeds_field_iff passed (fun _ => rfl)
    intro _
  simp

theorem succeeds_toolchain_iff (tabular : ¬ value.IsArray) :
    Succeeds (toolchain value) ↔ value.Readable ∧ value.IsRecord toolchainFields := by
  refine succeeds_record_iff tabular ?_ ⟨_, List.mem_cons_self, rfl, by decide⟩
  intro entries
  apply succeeds_fields_iff _ check_toolchain_foreign
  · intro passed
    rw [succeeds_build_toolchain_iff passed]
    simp only [toolchainFields, List.forall_mem_map, true_imp_iff]
  · simp only [toolchainFields, List.forall_mem_map]
    intro name known value _
    rw [check_toolchain_known known, check_eq_ok_iff, succeeds_text_iff]
    exact (and_iff_right_of_imp readable_of_is_text).symm

end Toolchain

section Platform

variable {entries : List (String × Toml.Value)} {value : Toml.Value}

def platformFields : List Field :=
  [{ name := "units", demand := Value.IsTexts },
    { name := "defines", demand := Value.IsTexts, required := false }]

theorem check_platform_foreign (key : String) (value : Toml.Value)
    (foreign : ∀ field ∈ platformFields, field.name ≠ key) :
    checkPlatform key value = .ok () ↔ value.Readable := by
  simp only [platformFields, List.forall_mem_cons] at foreign
  rw [checkPlatform, if_neg (not_or.2 ⟨foreign.1.symm, foreign.2.1.symm⟩), skip_eq_ok_iff]

theorem succeeds_build_platform_iff (passed : checkEntries checkPlatform entries = .ok ()) :
    Succeeds (buildPlatform (.named entries)) ↔ ∃ value, ("units", value) ∈ entries := by
  rw [← and_true (∃ value, ("units", value) ∈ entries)]
  apply succeeds_field_iff passed (fun _ => rfl)
  intro _
  apply succeeds_optional_field_iff passed (fun _ => rfl)
  intro _
  simp

theorem succeeds_platform_iff (tabular : ¬ value.IsArray) :
    Succeeds (platform value) ↔ value.Readable ∧ value.IsRecord platformFields := by
  refine succeeds_record_iff tabular ?_ ⟨_, List.mem_cons_self, rfl, by decide⟩
  intro entries
  apply succeeds_fields_iff _ check_platform_foreign
  · intro passed
    simp [succeeds_build_platform_iff passed, platformFields]
  · have accepted (name : String) (known : name = "units" ∨ name = "defines")
        (value : Toml.Value) :
        checkPlatform name value = .ok () ↔ value.Readable ∧ value.IsTexts := by
      rw [checkPlatform, if_pos known, check_eq_ok_iff, succeeds_texts_iff]
      exact (and_iff_right_of_imp readable_of_is_texts).symm
    simp [platformFields, accepted]

end Platform

section Maps

variable {α : Type} {read : Reader α} {demand : Toml.Value → Prop} {value : Toml.Value}

/-- A date or time counts as a table with one text, which `timeless` rules out. -/
theorem succeeds_map_of_iff
    (each : ∀ entries, value = .table entries → ∀ entry ∈ entries,
      (Succeeds (read entry.2) ↔ demand entry.2))
    (timeless : ∀ moment, value = .scalar (.moment moment) →
      ¬ Succeeds (read (.scalar (.text moment.text)))) :
    Succeeds (mapOf read value) ↔ value.IsTableOf demand := by
  have readIff : Succeeds (mapOf read value) ↔
      ∃ entries, entries? value = some entries ∧ ∀ entry ∈ entries, Succeeds (read entry.2) := by
    unfold mapOf
    cases found : entries? value with
    | none => simp [not_succeeds_refuse]
    | some entries =>
        simp only [succeeds_bind_iff, succeeds_ok, and_true, Option.some.injEq, exists_eq_left']
        apply succeeds_map_m_iff.trans
        simp only [succeeds_map_iff]
  rw [readIff]
  constructor
  · intro isRead
    obtain ⟨entries, found, allRead⟩ := isRead
    rcases entries?_eq_some_iff.1 found with table | ⟨moment, isMoment, rfl⟩
    · exact ⟨entries, table, fun entry inside => (each _ table _ inside).1 (allRead _ inside)⟩
    · exact absurd (allRead _ List.mem_cons_self) (timeless moment isMoment)
  · intro isTable
    obtain ⟨entries, table, demanded⟩ := isTable
    refine ⟨entries, entries?_eq_some_iff.2 (.inl table), ?_⟩
    intro entry inside
    exact (each _ table _ inside).2 (demanded _ inside)

theorem succeeds_compilers_iff (timeless : ¬ value.IsMoment) :
    Succeeds (mapOf text value) ↔ value.IsTableOf Value.IsText := by
  apply succeeds_map_of_iff
  · intro entries _ entry _
    exact succeeds_text_iff
  · intro moment isMoment
    exact absurd ⟨moment, isMoment⟩ timeless

theorem is_table_of_and_iff :
    value.IsTableOf (fun item => item.Readable ∧ demand item) ↔
      value.Readable ∧ value.IsTableOf demand := by
  constructor
  · rintro ⟨entries, rfl, each⟩
    exact ⟨readable_table_iff.2 fun entry inside => (each entry inside).1,
      entries, rfl, fun entry inside => (each entry inside).2⟩
  · rintro ⟨readable, entries, rfl, demanded⟩
    exact ⟨entries, rfl, fun entry inside =>
      ⟨readable_table_iff.1 readable entry inside, demanded entry inside⟩⟩

theorem readable_of_is_table (isTable : value.IsTableOf Value.IsText) : value.Readable := by
  obtain ⟨entries, rfl, allText⟩ := isTable
  exact readable_table_iff.2 fun entry inside => readable_of_is_text (allText entry inside)

theorem succeeds_platforms_iff
    (tabular : ∀ entries, value = .table entries → ∀ entry ∈ entries, ¬ entry.2.IsArray) :
    Succeeds (mapOf platform value) ↔
      value.Readable ∧ value.IsTableOf (Value.IsRecord platformFields) := by
  rw [← is_table_of_and_iff]
  apply succeeds_map_of_iff
  · intro entries table entry inside
    exact succeeds_platform_iff (tabular entries table entry inside)
  · intro moment _
    have refused : platform (.scalar (.text moment.text)) =
        refuse .platform (.scalar (.text moment.text)) := rfl
    rw [refused]
    exact not_succeeds_refuse _ _

end Maps

section Catalogs

variable {entries : List (String × Toml.Value)}

def catalogFields : List Field :=
  [{ name := "entry_point", demand := Value.IsText },
    { name := "local_entry_point", demand := Value.IsText },
    { name := "source_suffix", demand := Value.IsText },
    { name := "object_suffix", demand := Value.IsText },
    { name := "headers", demand := Value.IsTexts },
    { name := "common", demand := Value.IsTexts },
    { name := "toolchain", demand := Value.IsRecord toolchainFields },
    { name := "compilers", demand := Value.IsTableOf Value.IsText },
    { name := "platforms", demand := Value.IsTableOf (Value.IsRecord platformFields) }]

/-- No record is written as an array, and the compilers are not a date or time. -/
structure Tabular (entries : List (String × Toml.Value)) : Prop where
  toolchain : ∀ value, ("toolchain", value) ∈ entries → ¬ value.IsArray
  compilers : ∀ value, ("compilers", value) ∈ entries → ¬ value.IsMoment
  platforms : ∀ platforms, ("platforms", .table platforms) ∈ entries →
    ∀ entry ∈ platforms, ¬ entry.2.IsArray

theorem check_catalog_foreign (key : String) (value : Toml.Value)
    (foreign : ∀ field ∈ catalogFields, field.name ≠ key) :
    checkCatalog key value = .ok () ↔ value.Readable := by
  have skipped : checkCatalog key value = skip value := by
    simp only [catalogFields, List.forall_mem_cons, List.not_mem_nil] at foreign
    simp_all [checkCatalog, eq_comm]
  rw [skipped, skip_eq_ok_iff]

theorem succeeds_build_catalog_iff (passed : checkEntries checkCatalog entries = .ok ()) :
    Succeeds (buildCatalog (.named entries)) ↔
      ∀ field ∈ catalogFields, ∃ value, (field.name, value) ∈ entries := by
  simp only [catalogFields, List.forall_mem_cons]
  iterate 9
    apply succeeds_field_iff passed (fun _ => rfl)
    intro _
  simp

theorem check_catalog_eq_ok_iff (tabular : Tabular entries) :
    ∀ field ∈ catalogFields, ∀ value, (field.name, value) ∈ entries →
      (checkCatalog field.name value = .ok () ↔ value.Readable ∧ field.demand value) := by
  simp only [catalogFields, List.forall_mem_cons]
  refine ⟨?_, ?_, ?_, ?_, ?_, ?_, ?_, ?_, ?_, by simp⟩
  case refine_7 =>
    intro value inside
    exact check_eq_ok_iff.trans (succeeds_toolchain_iff (tabular.toolchain value inside))
  case refine_8 =>
    intro value inside
    apply check_eq_ok_iff.trans
    rw [succeeds_compilers_iff (tabular.compilers value inside)]
    exact (and_iff_right_of_imp readable_of_is_table).symm
  case refine_9 =>
    intro value inside
    apply check_eq_ok_iff.trans
    apply succeeds_platforms_iff
    intro platforms table
    exact tabular.platforms platforms (table ▸ inside)
  case refine_5 | refine_6 =>
    intro value _
    apply check_eq_ok_iff.trans
    rw [succeeds_texts_iff]
    exact (and_iff_right_of_imp readable_of_is_texts).symm
  all_goals
    intro value _
    apply check_eq_ok_iff.trans
    rw [succeeds_text_iff]
    exact (and_iff_right_of_imp readable_of_is_text).symm

end Catalogs

end Schema

open Schema in
theorem Catalog.succeeds_of_entries_iff {entries : List (String × Toml.Value)}
    (tabular : Tabular entries) :
    Result.Succeeds (Catalog.ofEntries entries) ↔
      Toml.Readable entries ∧ ∀ field ∈ catalogFields, field.Met entries := by
  apply succeeds_fields_iff (check_catalog_eq_ok_iff tabular) check_catalog_foreign
  intro passed
  rw [succeeds_build_catalog_iff passed]
  simp only [catalogFields, List.forall_mem_cons, true_imp_iff, List.not_mem_nil, false_imp_iff]

end MakePlan
