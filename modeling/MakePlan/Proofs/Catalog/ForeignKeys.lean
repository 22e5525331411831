import MakePlan.Proofs.Catalog.Shape

/-!
# Keys that are no fields

A catalog is decoded from the fields of its records alone. A key that is not a field of the record
it stands in changes nothing, neither the catalog nor the first mismatch, as long as the numbers in
its value can be read. A platform without definitions is one with an empty array of them.
-/

namespace MakePlan

set_option autoImplicit false

namespace Schema

open Result Toml

section Entries

variable {α : Type} {check : String → Toml.Value → Except Mismatch Unit}
  {front back : List (String × Toml.Value)} {key name : String} {value left right : Toml.Value}

theorem lookup_foreign (foreign : name ≠ key) :
    (front ++ (key, value) :: back).lookup name = (front ++ back).lookup name := by
  rw [List.lookup_append, List.lookup_append, lookup_entry, if_neg foreign]

theorem lookup_inserted (absent : front.lookup key = none) :
    (front ++ (key, value) :: back).lookup key = some value := by
  rw [List.lookup_append, absent, lookup_entry, if_pos rfl]
  rfl

theorem check_entries_append (front back : List (String × Toml.Value)) :
    checkEntries check (front ++ back) =
      checkEntries check front >>= fun _ => checkEntries check back :=
  List.forM_append

theorem check_entries_cons (entry : String × Toml.Value) (rest : List (String × Toml.Value)) :
    checkEntries check (entry :: rest) =
      check entry.1 entry.2 >>= fun _ => checkEntries check rest :=
  rfl

theorem check_entries_foreign (accepted : check key value = .ok ()) :
    checkEntries check (front ++ (key, value) :: back) = checkEntries check (front ++ back) := by
  rw [check_entries_append, check_entries_append, check_entries_cons, accepted]
  rfl

theorem check_entries_replace (alike : check key left = check key right) :
    checkEntries check (front ++ (key, left) :: back) =
      checkEntries check (front ++ (key, right) :: back) := by
  simp only [check_entries_append, check_entries_cons, alike]

theorem field_foreign (foreign : name ≠ key) (place : Nat) (read : Reader α) :
    (Source.named (front ++ (key, value) :: back)).field place name read =
      (Source.named (front ++ back)).field place name read := by
  rw [field_named, field_named, lookup_foreign foreign]

theorem optional_field_foreign (foreign : name ≠ key) (place : Nat) (read : Reader α) (absent : α) :
    (Source.named (front ++ (key, value) :: back)).optionalField place name read absent =
      (Source.named (front ++ back)).optionalField place name read absent := by
  rw [optional_field_named, optional_field_named, lookup_foreign foreign]

theorem field_replace {read : Reader α} (alike : name = key → read left = read right)
    (place : Nat) :
    (Source.named (front ++ (key, left) :: back)).field place name read =
      (Source.named (front ++ (key, right) :: back)).field place name read := by
  rw [field_named, field_named, List.lookup_append, List.lookup_append]
  cases front.lookup name with
  | some found => rfl
  | none =>
      by_cases same : name = key
      · simp [same, alike same]
      · simp [lookup_entry, same]

end Entries

section Records

variable {front back : List (String × Toml.Value)} {key : String} {value : Toml.Value}

theorem toolchain_foreign (foreign : ∀ field ∈ toolchainFields, field.name ≠ key)
    (readable : value.Readable) :
    toolchain (.table (front ++ (key, value) :: back)) = toolchain (.table (front ++ back)) := by
  have skipped := (check_toolchain_foreign key value foreign).2 readable
  have built : buildToolchain (.named (front ++ (key, value) :: back)) =
      buildToolchain (.named (front ++ back)) := by
    simp only [toolchainFields, toolchainKeys, List.map_cons, List.forall_mem_cons] at foreign
    obtain ⟨cflags, debugCflags, define, releaseLdflags, debugLdflags, ldlibs, -⟩ := foreign
    simp only [buildToolchain, field_foreign cflags, field_foreign debugCflags,
      field_foreign define, field_foreign releaseLdflags, field_foreign debugLdflags,
      field_foreign ldlibs]
  simp only [toolchain, record, entries?, check_entries_foreign skipped, built]

theorem platform_foreign (foreign : ∀ field ∈ platformFields, field.name ≠ key)
    (readable : value.Readable) :
    platform (.table (front ++ (key, value) :: back)) = platform (.table (front ++ back)) := by
  have skipped := (check_platform_foreign key value foreign).2 readable
  have built : buildPlatform (.named (front ++ (key, value) :: back)) =
      buildPlatform (.named (front ++ back)) := by
    simp only [platformFields, List.forall_mem_cons] at foreign
    obtain ⟨units, defines, -⟩ := foreign
    simp only [buildPlatform, field_foreign units, optional_field_foreign defines]
  simp only [platform, record, entries?, check_entries_foreign skipped, built]

theorem platform_defines (absent : ∀ definitions, ("defines", definitions) ∉ front ++ back) :
    platform (.table (front ++ ("defines", .array []) :: back)) =
      platform (.table (front ++ back)) := by
  have noneGiven : (front ++ back).lookup "defines" = none := lookup_eq_none_iff_absent.2 absent
  have noneInFront : front.lookup "defines" = none := by
    rw [List.lookup_append] at noneGiven
    exact (Option.or_eq_none_iff.1 noneGiven).1
  have built : buildPlatform (.named (front ++ ("defines", .array []) :: back)) =
      buildPlatform (.named (front ++ back)) := by
    have units : "units" ≠ "defines" := by decide
    simp only [buildPlatform, field_foreign units, optional_field_named, noneGiven,
      lookup_inserted noneInFront]
    rfl
  have accepted : checkPlatform "defines" (.array []) = .ok () := rfl
  simp only [platform, record, entries?, check_entries_foreign accepted, built]

theorem map_of_replace {α : Type} {read : Reader α} {name : String} {left right : Toml.Value}
    (alike : read left = read right) :
    mapOf read (.table (front ++ (name, left) :: back)) =
      mapOf read (.table (front ++ (name, right) :: back)) := by
  simp only [mapOf, entries?, List.mapM_append, List.mapM_cons, alike]

end Records

end Schema

namespace Catalog

open Schema

section

variable {front back : List (String × Toml.Value)} {key : String} {value left right : Toml.Value}

theorem of_entries_foreign (foreign : ∀ field ∈ catalogFields, field.name ≠ key)
    (readable : value.Readable) :
    ofEntries (front ++ (key, value) :: back) = ofEntries (front ++ back) := by
  have skipped := (check_catalog_foreign key value foreign).2 readable
  have built : buildCatalog (.named (front ++ (key, value) :: back)) =
      buildCatalog (.named (front ++ back)) := by
    simp only [catalogFields, List.forall_mem_cons] at foreign
    obtain ⟨entryPoint, localEntryPoint, sourceSuffix, objectSuffix, headers, common,
      toolchain, compilers, platforms, -⟩ := foreign
    simp only [buildCatalog, field_foreign entryPoint, field_foreign localEntryPoint,
      field_foreign sourceSuffix, field_foreign objectSuffix, field_foreign headers,
      field_foreign common, field_foreign toolchain, field_foreign compilers,
      field_foreign platforms]
  simp only [ofEntries, check_entries_foreign skipped, built]

/-- Only a table that is read to the same result can stand for another. -/
theorem of_entries_replace (nested : key = "toolchain" ∨ key = "platforms")
    (toolchains : "toolchain" = key → Schema.toolchain left = Schema.toolchain right)
    (platforms : "platforms" = key → mapOf platform left = mapOf platform right) :
    ofEntries (front ++ (key, left) :: back) = ofEntries (front ++ (key, right) :: back) := by
  have fieldOther {α : Type} {name : String} (other : name ≠ "toolchain" ∧ name ≠ "platforms")
      (place : Nat) (read : Reader α) :
      (Source.named (front ++ (key, left) :: back)).field place name read =
        (Source.named (front ++ (key, right) :: back)).field place name read := by
    apply field_replace
    intro same
    rw [← same] at nested
    exact absurd nested (not_or.2 other)
  have built : buildCatalog (.named (front ++ (key, left) :: back)) =
      buildCatalog (.named (front ++ (key, right) :: back)) := by
    simp [buildCatalog, fieldOther, field_replace toolchains 6, field_replace platforms 8]
  have checked : checkCatalog key left = checkCatalog key right := by
    cases nested with
    | inl same => simp [checkCatalog, same, toolchains same.symm]
    | inr same => simp [checkCatalog, same, platforms same.symm]
  simp only [ofEntries, check_entries_replace checked, built]

theorem of_entries_toolchain (alike : Schema.toolchain left = Schema.toolchain right) :
    ofEntries (front ++ ("toolchain", left) :: back) =
      ofEntries (front ++ ("toolchain", right) :: back) :=
  of_entries_replace (.inl rfl) (fun _ => alike) (fun same => absurd same (by decide))

theorem of_entries_platform {name : String} {before after : List (String × Toml.Value)}
    (alike : platform left = platform right) :
    ofEntries (front ++ ("platforms", .table (before ++ (name, left) :: after)) :: back) =
      ofEntries (front ++ ("platforms", .table (before ++ (name, right) :: after)) :: back) :=
  of_entries_replace (.inr rfl) (fun same => absurd same (by decide)) fun _ => map_of_replace alike

end

/-- One of the tables that are read as records, with all that stands around it in the document. -/
inductive Place
  | root
  | toolchain (front back : List (String × Toml.Value))
  | platform (front back : List (String × Toml.Value)) (name : String)
      (before after : List (String × Toml.Value))

namespace Place

def fields : Place → List Toml.Field
  | root => catalogFields
  | toolchain _ _ => toolchainFields
  | platform _ _ _ _ _ => platformFields

def fill (entries : List (String × Toml.Value)) : Place → List (String × Toml.Value)
  | root => entries
  | toolchain front back => front ++ ("toolchain", .table entries) :: back
  | platform front back name before after =>
      front ++ ("platforms", .table (before ++ (name, .table entries) :: after)) :: back

end Place

theorem of_entries_fill_foreign (place : Place) {front back : List (String × Toml.Value)}
    {key : String} {value : Toml.Value} (foreign : ∀ field ∈ place.fields, field.name ≠ key)
    (readable : value.Readable) :
    ofEntries (place.fill (front ++ (key, value) :: back)) =
      ofEntries (place.fill (front ++ back)) := by
  cases place with
  | root => exact of_entries_foreign foreign readable
  | toolchain before after => exact of_entries_toolchain (toolchain_foreign foreign readable)
  | platform above below name before after =>
      exact of_entries_platform (platform_foreign foreign readable)

/-- A document is a catalog exactly when its numbers can be read and each field of its records is as
demanded. A key that is not a field of the record in whose table it is put changes neither the
catalog nor the first mismatch, whatever its value is, as long as the numbers in it can be read; and
a platform without definitions is read as one with an empty array of them. -/
theorem of_entries_fields :
    (∀ entries, Tabular entries →
      ((∃ catalog, ofEntries entries = .ok catalog) ↔
        Toml.Readable entries ∧ ∀ field ∈ catalogFields, field.Met entries)) ∧
    (∀ (place : Place) (front back : List (String × Toml.Value)) (key : String)
        (value : Toml.Value), (∀ field ∈ place.fields, field.name ≠ key) → value.Readable →
      ofEntries (place.fill (front ++ (key, value) :: back)) =
        ofEntries (place.fill (front ++ back))) ∧
    (∀ (above below : List (String × Toml.Value)) (name : String)
        (before after front back : List (String × Toml.Value)),
      (∀ definitions, ("defines", definitions) ∉ front ++ back) →
      ofEntries ((Place.platform above below name before after).fill
          (front ++ ("defines", .array []) :: back)) =
        ofEntries ((Place.platform above below name before after).fill (front ++ back))) := by
  refine ⟨?_, ?_, ?_⟩
  · intro entries tabular
    exact succeeds_of_entries_iff tabular
  · intro place front back key value foreign readable
    exact of_entries_fill_foreign place foreign readable
  · intro above below name before after front back absent
    exact of_entries_platform (platform_defines absent)

def onlyPlatform : Place :=
  .platform
    [("common", .array [.scalar (.text "main.o")]), ("compilers", .table []),
      ("entry_point", .scalar (.text "main.o")), ("headers", .array []),
      ("local_entry_point", .scalar (.text "local.o")), ("object_suffix", .scalar (.text ".o"))]
    [("source_suffix", .scalar (.text ".c")),
      ("toolchain", .table (toolchainKeys.map (·, .scalar (.text ""))))]
    "linux" [] []

theorem of_entries_fields_only_platform :
    (∃ catalog, ofEntries (onlyPlatform.fill [("units", .array [])]) = .ok catalog) ∧
      (¬ ∃ catalog, ofEntries (onlyPlatform.fill [("unit", .array [])]) = .ok catalog) ∧
      ofEntries (onlyPlatform.fill [("unit", .scalar (.boolean true)), ("units", .array [])]) =
        ofEntries (onlyPlatform.fill [("units", .array [])]) ∧
      ofEntries (onlyPlatform.fill [("defines", .array []), ("units", .array [])]) =
        ofEntries (onlyPlatform.fill [("units", .array [])]) := by
  have metIff (key : String) :
      (∀ field ∈ catalogFields, field.Met (onlyPlatform.fill [(key, .array [])])) ↔
        "units" = key := by
    simp [onlyPlatform, Place.fill, catalogFields, toolchainFields, toolchainKeys, platformFields,
      Toml.Field.Met, Toml.Value.IsText, Toml.Value.IsTexts, Toml.Value.IsTableOf,
      Toml.Value.IsRecord]
  have tabular (key : String) : Tabular (onlyPlatform.fill [(key, .array [])]) := by
    constructor <;> simp [onlyPlatform, Place.fill, Toml.Value.IsArray, Toml.Value.IsMoment]
  have decodedIff (key : String) := of_entries_fields.1 _ (tabular key)
  have readable : Toml.Readable (onlyPlatform.fill [("units", .array [])]) :=
    (Toml.readable_entries_iff _).2 rfl
  refine ⟨(decodedIff "units").2 ⟨readable, (metIff "units").2 rfl⟩, ?_, ?_, ?_⟩
  · intro decoded
    exact absurd ((metIff "unit").1 ((decodedIff "unit").1 decoded).2) (by decide)
  · exact of_entries_fields.2.1 onlyPlatform [] _ "unit" _ (by decide)
      (Toml.readable_scalar_iff.2 rfl)
  · exact of_entries_fields.2.2 _ _ _ _ _ [] _ (by simp)

/-- An integer that needs more than 128 bits cannot be read, so under a key that is no field it
turns a catalog into a failure. -/
theorem foreign_integer_overflows :
    let document := onlyPlatform.fill [("units", .array [])]
    let foreign : String × Toml.Value :=
      ("x", .table [("y", .array [.scalar (.unreadable .integer)])])
    Toml.Scalar.ofLiteral? "340282366920938463463374607431768211456".toList =
      some (.unreadable .integer) ∧
    (∀ field ∈ catalogFields, field.name ≠ foreign.1) ∧
    Tabular (document ++ [foreign]) ∧
    (∀ field ∈ catalogFields, field.Met (document ++ [foreign])) ∧
    ofEntries (document ++ [foreign]) = .error (.overflow .integer) ∧
    ∃ catalog, ofEntries document = .ok catalog := by
  intro document foreign
  refine ⟨by decide +kernel, by decide, ?_, ?_, rfl, _, rfl⟩
  · constructor <;> simp [document, foreign, onlyPlatform, Place.fill, Toml.Value.IsArray,
      Toml.Value.IsMoment]
  · simp [document, foreign, onlyPlatform, Place.fill, catalogFields, toolchainFields,
      toolchainKeys, platformFields, Toml.Field.Met, Toml.Value.IsText, Toml.Value.IsTexts,
      Toml.Value.IsTableOf, Toml.Value.IsRecord]

end Catalog
end MakePlan
