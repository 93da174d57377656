import Mathlib.Data.List.Nodup

/-!
# Tables with a primary key

A table is a list of rows, no two with the same key.
-/

namespace Addons

open List

structure KeyedTable {Row Key : Type} (key : Row → Key) where
  rows : List Row
  nodup : (rows.map key).Nodup

namespace KeyedTable

variable {Row Key : Type} {key : Row → Key}

def empty : KeyedTable key := ⟨[], List.nodup_nil⟩

def select (table : KeyedTable key) (condition : Row → Bool) : List Row :=
  table.rows.filter condition

def count (table : KeyedTable key) (condition : Row → Bool) : Nat :=
  table.rows.countP condition

def deleteWhere (table : KeyedTable key) (condition : Row → Bool) : KeyedTable key where
  rows := table.rows.filter (fun row => !condition row)
  nodup := (List.filter_sublist.map key).nodup table.nodup

def updated (condition : Row → Bool) (change : Row → Row) (row : Row) : Row :=
  if condition row then change row else row

variable {condition : Row → Bool}

theorem key_updated {change : Row → Row} (keeps : ∀ row, key (change row) = key row) (row : Row) :
    key (updated condition change row) = key row := by
  unfold updated
  split
  · exact keeps row
  · rfl

def updateWhere (table : KeyedTable key) (condition : Row → Bool) (change : Row → Row)
    (keeps : ∀ row, key (change row) = key row) : KeyedTable key where
  rows := table.rows.map (updated condition change)
  nodup := by
    rw [List.map_map, show key ∘ updated condition change = key from funext (key_updated keeps)]
    exact table.nodup

/-- Deleted and kept rows make up those counted before. -/
theorem count_deleteWhere (table : KeyedTable key) (condition counted : Row → Bool) :
    table.count counted =
      (table.select condition).countP counted + (table.deleteWhere condition).count counted :=
  countP_eq_countP_filter_add table.rows counted condition

variable {table : KeyedTable key} {change : Row → Row} {keeps : ∀ row, key (change row) = key row}
  {row : Row}

theorem count_updateWhere {counted : Row → Bool}
    (same : ∀ row, counted (change row) = counted row) :
    (table.updateWhere condition change keeps).count counted = table.count counted := by
  have unchanged : counted ∘ updated condition change = counted := by
    funext row
    simp only [Function.comp_apply, updated]
    split
    · exact same row
    · rfl
  simp only [count, updateWhere, countP_map, unchanged]

theorem mem_updateWhere (member : row ∈ (table.updateWhere condition change keeps).rows) :
    ∃ old ∈ table.rows, row = updated condition change old := by
  obtain ⟨old, oldMember, rfl⟩ := mem_map.mp member
  exact ⟨old, oldMember, rfl⟩

theorem mem_of_mem_deleteWhere (member : row ∈ (table.deleteWhere condition).rows) :
    row ∈ table.rows :=
  (mem_filter.mp member).1

section Lookup

variable [DecidableEq Key]

def find? (table : KeyedTable key) (wanted : Key) : Option Row :=
  table.rows.find? (fun row => key row = wanted)

def upsert (table : KeyedTable key) (row : Row) (merge : Row → Row)
    (keeps : ∀ old, key (merge old) = key old) : KeyedTable key :=
  if absent : ∀ other ∈ table.rows, key other ≠ key row then
    ⟨table.rows ++ [row], by
      simp only [List.map_append, List.map_cons, List.map_nil]
      refine List.nodup_append.mpr ⟨table.nodup, List.nodup_singleton _, ?_⟩
      intro left member right rightMember
      obtain ⟨other, otherMember, rfl⟩ := List.mem_map.mp member
      rw [List.mem_singleton.mp rightMember]
      exact absent other otherMember⟩
  else table.updateWhere (fun old => key old = key row) merge keeps

variable {table : KeyedTable key} {row : Row} {wanted : Key}

theorem filter_key_eq_find? {rows : List Row} (nodup : (rows.map key).Nodup) (wanted : Key) :
    rows.filter (fun row => key row = wanted) =
      (rows.find? (fun row => key row = wanted)).toList := by
  induction rows with
  | nil => rfl
  | cons first rest ih =>
    rw [map_cons, nodup_cons] at nodup
    by_cases same : key first = wanted
    · have others : rest.filter (fun row => key row = wanted) = [] := by
        rw [filter_eq_nil_iff]
        intro other member otherKey
        apply nodup.1
        rw [same, ← of_decide_eq_true otherKey]
        exact mem_map_of_mem member
      simp [same, others]
    · simp [same, ih nodup.2]

theorem select_key (table : KeyedTable key) (wanted : Key) :
    table.select (fun row => key row = wanted) = (table.find? wanted).toList :=
  filter_key_eq_find? table.nodup wanted

theorem find?_eq_some_iff :
    table.find? wanted = some row ↔ row ∈ table.rows ∧ key row = wanted := by
  constructor
  · intro found
    exact ⟨mem_of_find?_eq_some found, by simpa using find?_some found⟩
  · rintro ⟨member, rfl⟩
    have selected : row ∈ table.select (fun other => key other = key row) := by
      simp [select, member]
    rw [select_key] at selected
    simpa using selected

theorem find?_eq_none_iff : table.find? wanted = none ↔ ∀ row ∈ table.rows, key row ≠ wanted := by
  simp [find?]

theorem mem_keys_iff : wanted ∈ table.rows.map key ↔ table.find? wanted ≠ none := by
  rw [Option.ne_none_iff_exists']
  simp only [find?_eq_some_iff, mem_map]

theorem find?_deleteWhere (table : KeyedTable key) (condition : Row → Bool) (wanted : Key) :
    (table.deleteWhere condition).find? wanted =
      (table.find? wanted).filter (fun row => !condition row) := by
  ext row
  rw [find?_eq_some_iff, Option.filter_eq_some_iff, find?_eq_some_iff]
  simp [deleteWhere]
  tauto

theorem find?_updateWhere (table : KeyedTable key) (condition : Row → Bool) (change : Row → Row)
    (keeps : ∀ row, key (change row) = key row) (wanted : Key) :
    (table.updateWhere condition change keeps).find? wanted =
      (table.find? wanted).map (updated condition change) := by
  have sameKey : (fun row => decide (key row = wanted)) ∘ updated condition change =
      fun row => decide (key row = wanted) := by
    funext row
    simp [key_updated keeps]
  simp only [find?, updateWhere, find?_map, sameKey]

section Upsert

variable (table row) (merge : Row → Row) (keeps : ∀ old, key (merge old) = key old)

theorem find?_upsert_self :
    (table.upsert row merge keeps).find? (key row) =
      some ((table.find? (key row)).elim row merge) := by
  unfold upsert
  split
  next absent =>
      rw [find?_eq_none_iff.mpr absent]
      exact find?_eq_some_iff.mpr ⟨by simp, rfl⟩
  next present =>
      have found : table.find? (key row) ≠ none := fun absent =>
        present (find?_eq_none_iff.mp absent)
      obtain ⟨old, foundEq⟩ := Option.ne_none_iff_exists'.mp found
      have oldKey := (find?_eq_some_iff.mp foundEq).2
      rw [find?_updateWhere, foundEq]
      simp [updated, oldKey]

theorem find?_upsert_of_ne (other : wanted ≠ key row) :
    (table.upsert row merge keeps).find? wanted = table.find? wanted := by
  unfold upsert
  split
  · simp [find?, Ne.symm other]
  · rw [find?_updateWhere]
    cases found : table.find? wanted with
    | none => rfl
    | some =>
      have oldKey := (find?_eq_some_iff.mp found).2
      simp [updated, oldKey, other]

theorem mem_upsert {other : Row} (member : other ∈ (table.upsert row merge keeps).rows) :
    other ∈ table.rows ∨ other = row ∨
      ∃ old ∈ table.rows, key old = key row ∧ other = merge old := by
  unfold upsert at member
  split at member
  · rw [mem_append, mem_singleton] at member
    exact member.imp_right .inl
  · obtain ⟨old, oldMember, rfl⟩ := mem_updateWhere member
    unfold updated
    split
    next same => exact .inr (.inr ⟨old, oldMember, of_decide_eq_true same, rfl⟩)
    next => exact .inl oldMember

theorem mem_upsert_of_mem {old : Row} (member : old ∈ table.rows) :
    old ∈ (table.upsert row merge keeps).rows ∨ merge old ∈
    (table.upsert row merge keeps).rows := by
  unfold upsert
  split
  · exact .inl (mem_append_left _ member)
  · have changed := mem_map_of_mem (f := updated (fun old => key old = key row) merge) member
    unfold updated at changed
    split at changed
    · exact .inr changed
    · exact .inl changed

theorem find?_upsert (wanted : Key) :
    (table.upsert row merge keeps).find? wanted =
      if wanted = key row then some ((table.find? wanted).elim row merge)
      else table.find? wanted := by
  split
  next same => rw [same, find?_upsert_self]
  next other => rw [find?_upsert_of_ne table row merge keeps other]

theorem mem_keys_upsert {wanted : Key} :
    wanted ∈ (table.upsert row merge keeps).rows.map key ↔
      wanted ∈ table.rows.map key ∨ wanted = key row := by
  rw [mem_keys_iff, mem_keys_iff, find?_upsert]
  split
  next same => simp [same]
  next other => simp [other]

/-- An upsert counts its row in place of the one it replaces. -/
theorem count_upsert (counted : Row → Bool) :
    (table.upsert row merge keeps).count counted +
        (table.find? (key row)).elim 0 (fun old => (counted old).toNat) =
      table.count counted +
        (counted ((table.find? (key row)).elim row merge)).toNat := by
  unfold upsert
  split
  next absent =>
      rw [find?_eq_none_iff.mpr absent]
      cases holds : counted row <;> simp [count, holds]
  next present =>
      have found : table.find? (key row) ≠ none := fun absent =>
        present (find?_eq_none_iff.mp absent)
      obtain ⟨old, foundEq⟩ := Option.ne_none_iff_exists'.mp found
      have oldKey := (find?_eq_some_iff.mp foundEq).2
      have selected := table.select_key (key row)
      rw [foundEq] at selected ⊢
      simp only [Option.toList_some, Option.elim_some, select] at selected ⊢
      have others : ∀ other ∈ table.rows.filter (fun old => !decide (key old = key row)),
          ((counted ∘ updated (fun old => key old = key row) merge) other ↔ counted other) := by
        intro other member
        have differs : key other ≠ key row := by simpa using (mem_filter.mp member).2
        simp [updated, differs]
      simp only [count, updateWhere, countP_map]
      rw [countP_eq_countP_filter_add _ _ (fun old => decide (key old = key row)),
        countP_eq_countP_filter_add table.rows counted
          (fun old => decide (key old = key row)), selected, countP_congr others]
      cases before : counted old <;> cases after : counted (merge old) <;>
        simp [updated, oldKey, before, after] <;> omega

end Upsert

end Lookup

end KeyedTable

end Addons
