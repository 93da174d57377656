import Mathlib.Data.List.Basic
import Mathlib.Logic.Equiv.Defs

/-!
# Merge patches

A JSON merge patch changes the members of an object that it names, removes those it gives
as `null` and leaves the others as they are.
-/

namespace Addons

/-- A JSON value whose arrays and scalars are leaves. -/
inductive Document (Leaf : Type) where
  | null
  | leaf (value : Leaf)
  | object (members : List (String × Document Leaf))

namespace Document

variable {Leaf : Type}

/-- The members of an object; any other value has none. -/
def members : Document Leaf → List (String × Document Leaf)
  | object members => members
  | _ => []

@[simp]
theorem members_object (members : List (String × Document Leaf)) :
    (object members).members = members :=
  rfl

@[simp]
def valueOf {Value : Type} (key : String) : List (String × Value) → Option Value
  | [] => none
  | (name, value) :: rest => if key = name then some value else valueOf key rest

variable {key : String}

theorem valueOf_eq_none {Value : Type} {values : List (String × Value)}
    (absent : key ∉ values.map Prod.fst) : valueOf key values = none := by
  induction values with
  | nil => rfl
  | cons value _ ih =>
    simp only [List.map_cons, List.mem_cons, not_or] at absent
    simp [absent.1, ih absent.2]

def withoutMember (key : String) (members : List (String × Document Leaf)) :
    List (String × Document Leaf) :=
  members.filter fun member => member.1 != key

/-- The members of an object after a patch with the given members. -/
def mergeMembers (current : List (String × Document Leaf)) :
    List (String × Document Leaf) → List (String × Document Leaf)
  | [] => current
  | (key, .null) :: rest => mergeMembers (withoutMember key current) rest
  | (key, .leaf value) :: rest =>
    mergeMembers ((key, .leaf value) :: withoutMember key current) rest
  | (key, .object changes) :: rest =>
    mergeMembers
      ((key, .object (mergeMembers (((valueOf key current).getD .null).members) changes)) ::
        withoutMember key current)
      rest

/-- The value after a merge patch (RFC 7396). -/
def mergePatch (target : Document Leaf) : Document Leaf → Document Leaf
  | .object changes => .object (mergeMembers target.members changes)
  | replacement => replacement

def patchMember (current : Option (Document Leaf)) :
    Option (Document Leaf) → Option (Document Leaf)
  | none => current
  | some .null => none
  | some change => some (mergePatch (current.getD .null) change)

theorem valueOf_withoutMember_self (key : String) (members : List (String × Document Leaf)) :
    valueOf key (withoutMember key members) = none := by
  induction members with
  | nil => rfl
  | cons member _ ih =>
    obtain ⟨name, _⟩ := member
    by_cases same : name = key
    · simpa [withoutMember, same] using ih
    · have different : ¬ key = name := fun equal => same equal.symm
      simpa [withoutMember, same, different] using ih

theorem valueOf_withoutMember_of_ne {other : String} (different : other ≠ key)
    (members : List (String × Document Leaf)) :
    valueOf other (withoutMember key members) = valueOf other members := by
  induction members with
  | nil => rfl
  | cons member _ ih =>
    obtain ⟨name, _⟩ := member
    by_cases same : name = key
    · subst same
      simpa [withoutMember, different] using ih
    · by_cases found : other = name
      · simp [withoutMember, same, found]
      · simpa [withoutMember, same, found] using ih

theorem mergeMembers_cons (current : List (String × Document Leaf)) (key : String)
    (change : Document Leaf) (rest : List (String × Document Leaf)) :
    mergeMembers current ((key, change) :: rest) =
      mergeMembers
        (((patchMember (valueOf key current) (some change)).map fun value => (key, value)).toList ++
          withoutMember key current)
        rest := by
  cases change with
  | null | leaf | object => rw [mergeMembers]; rfl

variable {changes : List (String × Document Leaf)}

theorem valueOf_mergeMembers_of_notMem (absent : key ∉ changes.map Prod.fst)
    (current : List (String × Document Leaf)) :
    valueOf key (mergeMembers current changes) = valueOf key current := by
  induction changes generalizing current with
  | nil => simp [mergeMembers]
  | cons change _ ih =>
    obtain ⟨name, value⟩ := change
    simp only [List.map_cons, List.mem_cons, not_or] at absent
    rw [mergeMembers_cons, ih absent.2]
    have kept := valueOf_withoutMember_of_ne absent.1 current
    cases patchMember (valueOf name current) (some value) with
    | none => simpa using kept
    | some => simpa [absent.1] using kept

/-- Every member is patched by the change with its key. -/
theorem valueOf_mergeMembers (distinct : (changes.map Prod.fst).Nodup)
    (current : List (String × Document Leaf)) (key : String) :
    valueOf key (mergeMembers current changes) =
      patchMember (valueOf key current) (valueOf key changes) := by
  induction changes generalizing current with
  | nil => simp [mergeMembers, patchMember]
  | cons change _ ih =>
    obtain ⟨name, value⟩ := change
    simp only [List.map_cons, List.nodup_cons] at distinct
    rw [mergeMembers_cons]
    by_cases found : key = name
    · subst found
      rw [valueOf_mergeMembers_of_notMem distinct.1]
      have removed := valueOf_withoutMember_self key current
      cases patched : patchMember (valueOf key current) (some value) with
      | none => simpa [patched] using removed
      | some => simp [patched]
    · rw [ih distinct.2]
      have kept := valueOf_withoutMember_of_ne found current
      cases patchMember (valueOf name current) (some value) with
      | none | some => simp [found, kept]

/-- The members that are written: those given as `none` are left out. -/
def writtenMembers (fields : List (String × Option (Document Leaf))) :
    List (String × Document Leaf) :=
  fields.filterMap fun field => field.2.map fun value => (field.1, value)

variable {fields : List (String × Option (Document Leaf))}

theorem mem_of_mem_writtenMembers {key : String}
    (written : key ∈ (writtenMembers fields).map Prod.fst) : key ∈ fields.map Prod.fst := by
  simp only [writtenMembers, List.mem_map, List.mem_filterMap, Option.map_eq_some_iff] at written
  obtain ⟨_, ⟨_, fieldMem, _, -, memberEq⟩, rfl⟩ := written
  subst memberEq
  exact List.mem_map_of_mem fieldMem

theorem nodup_writtenMembers (distinct : (fields.map Prod.fst).Nodup) :
    ((writtenMembers fields).map Prod.fst).Nodup := by
  induction fields with
  | nil => simp [writtenMembers]
  | cons field fields ih =>
    obtain ⟨name, value⟩ := field
    simp only [List.map_cons, List.nodup_cons] at distinct
    cases value with
    | none => simpa [writtenMembers] using ih distinct.2
    | some =>
      have unwritten : name ∉ (writtenMembers fields).map Prod.fst :=
        fun written => distinct.1 (mem_of_mem_writtenMembers written)
      simpa [writtenMembers] using And.intro unwritten (ih distinct.2)

theorem valueOf_writtenMembers (distinct : (fields.map Prod.fst).Nodup) (key : String) :
    valueOf key (writtenMembers fields) = (valueOf key fields).join := by
  induction fields with
  | nil => rfl
  | cons field fields ih =>
    obtain ⟨name, value⟩ := field
    simp only [List.map_cons, List.nodup_cons] at distinct
    have unchanged := ih distinct.2
    by_cases found : key = name
    · subst found
      cases value with
      | none =>
        have unwritten : key ∉ (writtenMembers fields).map Prod.fst :=
          fun written => distinct.1 (mem_of_mem_writtenMembers written)
        simpa [writtenMembers] using valueOf_eq_none unwritten
      | some => simp [writtenMembers]
    · cases value with
      | none | some => simpa [writtenMembers, found] using unchanged

end Document

open Document

/-- How one member of a record is written and read. -/
structure Field (Leaf Value : Type) where
  write : Value → Option (Document Leaf)
  read : Option (Document Leaf) → Option Value
  merge : Value → Value → Value
  read_fresh : ∀ new, read (patchMember none (write new)) = some new
  read_merged : ∀ {stored old} new, read stored = some old →
    read (patchMember stored (write new)) = some (merge old new)

attribute [simp] Field.read_fresh

/-- How a record is written as an object and read from one. -/
structure Schema (Leaf Record : Type) where
  fields : Record → List (String × Option (Document Leaf))
  distinct : ∀ record, ((fields record).map Prod.fst).Nodup
  read : (String → Option (Document Leaf)) → Option Record
  merge : Record → Record → Record
  read_fresh : ∀ new,
    read (fun key => patchMember none (valueOf key (fields new)).join) = some new
  read_merged : ∀ {stored old} new, read stored = some old →
    read (fun key => patchMember (stored key) (valueOf key (fields new)).join) =
      some (merge old new)

namespace Schema

variable {Leaf Record : Type} (schema : Schema Leaf Record)

def write (record : Record) : Document Leaf := .object (writtenMembers (schema.fields record))

def readDocument (document : Document Leaf) : Option Record :=
  schema.read fun key => valueOf key document.members

theorem valueOf_mergePatch_write (document : Document Leaf) (new : Record) (key : String) :
    valueOf key (mergePatch document (schema.write new)).members =
      patchMember (valueOf key document.members) (valueOf key (schema.fields new)).join := by
  rw [← valueOf_writtenMembers (schema.distinct new)]
  exact valueOf_mergeMembers (nodup_writtenMembers (schema.distinct new)) _ key

/-- A patched document reads as the old record merged with the new one. -/
theorem readDocument_mergePatch {document : Document Leaf} {old : Record} (new : Record)
    (holds : schema.readDocument document = some old) :
    schema.readDocument (mergePatch document (schema.write new)) =
      some (schema.merge old new) := by
  have merged := schema.read_merged new holds
  simpa only [readDocument, valueOf_mergePatch_write] using merged

theorem readDocument_mergePatch_null (new : Record) :
    schema.readDocument (mergePatch .null (schema.write new)) = some new := by
  simp only [readDocument, valueOf_mergePatch_write]
  exact schema.read_fresh new

end Schema

/-- The members of an object, each with a name and a way to write it. `Tuple` is the type of
their values. -/
inductive Layout (Leaf : Type) : Type → Type 1 where
  | last {Value : Type} (name : String) (field : Field Leaf Value) : Layout Leaf Value
  | member {Value Rest : Type} (name : String) (field : Field Leaf Value)
      (rest : Layout Leaf Rest) : Layout Leaf (Value × Rest)

namespace Layout

variable {Leaf : Type}

def names {Tuple : Type} : Layout Leaf Tuple → List String
  | last name _ => [name]
  | member name _ rest => name :: rest.names

def fields {Tuple : Type} : Layout Leaf Tuple → Tuple → List (String × Option (Document Leaf))
  | last name field, value => [(name, field.write value)]
  | member name field rest, tuple => (name, field.write tuple.1) :: rest.fields tuple.2

def read (stored : String → Option (Document Leaf)) {Tuple : Type} :
    Layout Leaf Tuple → Option Tuple
  | last name field => field.read (stored name)
  | member name field rest =>
    (field.read (stored name)).bind fun value => (rest.read stored).map (Prod.mk value)

def merge {Tuple : Type} : Layout Leaf Tuple → Tuple → Tuple → Tuple
  | last _ field, old, new => field.merge old new
  | member _ field rest, old, new => (field.merge old.1 new.1, rest.merge old.2 new.2)

variable {Tuple : Type} {layout : Layout Leaf Tuple}

@[simp]
theorem read_last {name : String} {field : Field Leaf Tuple}
    {stored : String → Option (Document Leaf)} :
    (last name field).read stored = field.read (stored name) :=
  rfl

@[simp]
theorem read_member_iff {Value : Type} {name : String} {field : Field Leaf Value}
    {stored : String → Option (Document Leaf)} {tuple : Value × Tuple} :
    (member name field layout).read stored = some tuple ↔
      field.read (stored name) = some tuple.1 ∧ layout.read stored = some tuple.2 := by
  simp [read, Option.bind_eq_some_iff, Prod.ext_iff, and_assoc, and_comm]

theorem map_fields (tuple : Tuple) : (layout.fields tuple).map Prod.fst = layout.names := by
  induction layout with
  | last => rfl
  | member name field rest ih => simp [fields, names, ih]

theorem read_congr {first second : String → Option (Document Leaf)}
    (same : ∀ name ∈ layout.names, first name = second name) :
    layout.read first = layout.read second := by
  induction layout with
  | last name field => simp [read, same name (by simp [names])]
  | member name field rest ih =>
    simp only [names, List.forall_mem_cons] at same
    simp [read, same.1, ih same.2]

theorem read_rest {name : String} (absent : name ∉ layout.names)
    (stored : String → Option (Document Leaf)) (value : Option (Document Leaf)) (tuple : Tuple) :
    layout.read (fun key =>
        patchMember (stored key) (valueOf key ((name, value) :: layout.fields tuple)).join) =
      layout.read fun key => patchMember (stored key) (valueOf key (layout.fields tuple)).join := by
  apply read_congr
  intro other member
  have different : other ≠ name := by
    rintro rfl
    exact absent member
  simp [different]

theorem read_fresh (distinct : layout.names.Nodup) (new : Tuple) :
    layout.read (fun key => patchMember none (valueOf key (layout.fields new)).join) =
      some new := by
  induction layout with
  | last => simp [read, fields]
  | member name field rest ih =>
    obtain ⟨absent, distinct⟩ := List.nodup_cons.mp distinct
    rw [read_member_iff, fields, read_rest absent]
    exact ⟨by simp, ih distinct new.2⟩

/-- Every field of a patched layout is merged on its own. -/
theorem read_merged (distinct : layout.names.Nodup) {stored : String → Option (Document Leaf)}
    {old : Tuple} (new : Tuple) (holds : layout.read stored = some old) :
    layout.read (fun key => patchMember (stored key) (valueOf key (layout.fields new)).join) =
      some (layout.merge old new) := by
  induction layout with
  | last name field => simpa [read, fields, merge] using field.read_merged new holds
  | member name field rest ih =>
    obtain ⟨absent, distinct⟩ := List.nodup_cons.mp distinct
    obtain ⟨first, others⟩ := read_member_iff.mp holds
    rw [read_member_iff, fields, read_rest absent]
    exact ⟨by simpa [merge] using field.read_merged new.1 first, ih distinct new.2 others⟩

/-- The schema of a record whose fields are the values of a layout. -/
def schema {Record : Type} (layout : Layout Leaf Tuple) (distinct : layout.names.Nodup)
    (values : Record ≃ Tuple) : Schema Leaf Record where
  fields record := layout.fields (values record)
  distinct record := by rwa [map_fields]
  read stored := (layout.read stored).map values.symm
  merge old new := values.symm (layout.merge (values old) (values new))
  read_fresh new := by simp [read_fresh distinct]
  read_merged new holds := by
    obtain ⟨tuple, tupleRead, rfl⟩ := Option.map_eq_some_iff.mp holds
    simp [read_merged distinct _ tupleRead]

@[simp]
theorem read_schema_iff {Record : Type} {distinct : layout.names.Nodup} {values : Record ≃ Tuple}
    {stored : String → Option (Document Leaf)} {record : Record} :
    (layout.schema distinct values).read stored = some record ↔
      layout.read stored = some (values record) := by
  simp [schema, Equiv.symm_apply_eq]

end Layout

/-- How the values of a type are written as leaves. -/
structure LeafCodec (Leaf Value : Type) where
  write : Value → Leaf
  read : Leaf → Option Value
  read_write : ∀ value, read (write value) = some value

namespace Field

variable {Leaf Value Record : Type}

/-- A member that is always written; a missing one is read as `fallback`, if there is
one. -/
def plain (codec : LeafCodec Leaf Value) (fallback : Option Value) : Field Leaf Value where
  write value := some (.leaf (codec.write value))
  read
    | some (.leaf value) => codec.read value
    | some _ => none
    | none => fallback
  merge _ new := new
  read_fresh new := codec.read_write new
  read_merged new _ := codec.read_write new

/-- An optional member that is left out when it is `none`. -/
def skipped (codec : LeafCodec Leaf Value) : Field Leaf (Option Value) where
  write value := value.map fun value => .leaf (codec.write value)
  read
    | some (.leaf value) => (codec.read value).map some
    | some (.object _) => none
    | some .null => some none
    | none => some none
  merge old new := new.or old
  read_fresh new := by
    cases new with
    | none => rfl
    | some value => simp [patchMember, mergePatch, codec.read_write]
  read_merged new holds := by
    cases new with
    | none => simpa [patchMember] using holds
    | some value => simp [patchMember, mergePatch, codec.read_write]

/-- An optional member that is written as `null` when it is `none`. -/
def nullable (codec : LeafCodec Leaf Value) : Field Leaf (Option Value) where
  write
    | some value => some (.leaf (codec.write value))
    | none => some .null
  read
    | some (.leaf value) => (codec.read value).map some
    | some (.object _) => none
    | some .null => some none
    | none => some none
  merge _ new := new
  read_fresh new := by
    cases new with
    | none => rfl
    | some value => simp [patchMember, mergePatch, codec.read_write]
  read_merged new _ := by
    cases new with
    | none => rfl
    | some value => simp [patchMember, mergePatch, codec.read_write]

def skippedEmpty [DecidableEq Value] (codec : LeafCodec Leaf Value) (empty : Value) :
    Field Leaf Value where
  write value := if value = empty then none else some (.leaf (codec.write value))
  read
    | some (.leaf value) => codec.read value
    | some _ => none
    | none => some empty
  merge old new := if new = empty then old else new
  read_fresh new := by
    by_cases isEmpty : new = empty
    · simp [isEmpty, patchMember]
    · simp [isEmpty, patchMember, mergePatch, codec.read_write]
  read_merged new holds := by
    by_cases isEmpty : new = empty
    · simpa [isEmpty, patchMember] using holds
    · simp [isEmpty, patchMember, mergePatch, codec.read_write]

/-- The merge of two optional records: a missing new one leaves the old one. -/
def mergeOption (merge : Record → Record → Record) : Option Record → Option Record → Option Record
  | old, none => old
  | none, some new => some new
  | some old, some new => some (merge old new)

/-- An optional record that is left out when it is `none`. -/
def skippedRecord (schema : Schema Leaf Record) : Field Leaf (Option Record) where
  write record := record.map schema.write
  read
    | some (.object members) => (schema.readDocument (.object members)).map some
    | some (.leaf _) => none
    | some .null => some none
    | none => some none
  merge := mergeOption schema.merge
  read_fresh new := by
    cases new with
    | none => rfl
    | some record =>
      have fresh := schema.readDocument_mergePatch_null record
      simpa [patchMember, Schema.write, mergePatch] using fresh
  read_merged {stored old} new holds := by
    cases new with
    | none => simpa [patchMember, mergeOption] using holds
    | some record =>
      have fresh := schema.readDocument_mergePatch_null record
      rcases stored with _ | _ | _ | members
      · cases holds
        simpa [patchMember, Schema.write, mergePatch, mergeOption] using fresh
      · cases holds
        simpa [patchMember, Schema.write, mergePatch, mergeOption] using fresh
      · simp at holds
      · obtain ⟨record', readOld, rfl⟩ := Option.map_eq_some_iff.mp holds
        have merged := schema.readDocument_mergePatch record readOld
        simpa [patchMember, Schema.write, mergePatch, mergeOption] using merged

section

variable (codec : LeafCodec Leaf Value)
include codec

@[simp]
theorem plain_read_leaf (fallback : Option Value) (value : Leaf) :
    (plain codec fallback).read (some (.leaf value)) = codec.read value :=
  rfl

@[simp]
theorem skipped_read_none : (skipped codec).read none = some none :=
  rfl

@[simp]
theorem skipped_read_leaf (value : Leaf) :
    (skipped codec).read (some (.leaf value)) = (codec.read value).map some :=
  rfl

@[simp]
theorem skippedEmpty_read_leaf [DecidableEq Value] (empty : Value)
    (value : Leaf) : (skippedEmpty codec empty).read (some (.leaf value)) = codec.read value :=
  rfl

theorem skippedEmpty_merge_eq [DecidableEq Value] {empty old new : Value}
    (kept : new = empty → old = empty) : (skippedEmpty codec empty).merge old new = new := by
  by_cases isEmpty : new = empty
  · simp [skippedEmpty, kept isEmpty, isEmpty]
  · simp [skippedEmpty, isEmpty]

end

@[simp]
theorem skippedRecord_read_none (schema : Schema Leaf Record) :
    (skippedRecord schema).read none = some none :=
  rfl

/-- A record that is always written; a missing one is read as `fallback`. -/
def plainRecord (schema : Schema Leaf Record) (fallback : Record)
    (merge_fallback : ∀ new, schema.merge fallback new = new) : Field Leaf Record where
  write record := some (schema.write record)
  read
    | some (.object members) => schema.readDocument (.object members)
    | some _ => none
    | none => some fallback
  merge := schema.merge
  read_fresh new := by
    have fresh := schema.readDocument_mergePatch_null new
    simpa [patchMember, Schema.write, mergePatch] using fresh
  read_merged {stored old} new holds := by
    rcases stored with _ | _ | _ | members
    · cases holds
      have fresh := schema.readDocument_mergePatch_null new
      rw [merge_fallback]
      simpa [patchMember, Schema.write, mergePatch] using fresh
    · simp at holds
    · simp at holds
    · have merged := schema.readDocument_mergePatch new holds
      simpa [patchMember, Schema.write, mergePatch] using merged

end Field

end Addons
