import Mathlib

/-!
# Tables with a primary key

A table is a list of rows, in insertion order, no two of which have the same key.
Its operations are the statements a relational store runs in one transaction:
look-up by key, insertion that refuses a taken key, and updates and deletions with a
condition, which report whether a row matched. Each of them comes with the lemma that
says what a look-up sees afterwards, so that no later proof opens the list.
-/

namespace Bugalizer.Store

set_option autoImplicit false

structure Table (Row Key : Type) (key : Row → Key) where
  rows : List Row
  distinct : (rows.map key).Nodup

namespace Table

variable {Row Key : Type} {key : Row → Key}

def empty : Table Row Key key := ⟨[], List.nodup_nil⟩

def select (table : Table Row Key key) (condition : Row → Bool) : List Row :=
  table.rows.filter condition

/-- `UPDATE ... WHERE condition`, by a change that leaves the key alone. -/
def updateAll (table : Table Row Key key) (condition : Row → Bool) (change : Row → Row)
    (keyed : ∀ row, key (change row) = key row) : Table Row Key key where
  rows := table.rows.map fun row => if condition row then change row else row
  distinct := by
    have same : (key ∘ fun row => if condition row then change row else row) = key := by
      funext row
      by_cases hit : condition row <;> simp [hit, keyed]
    rw [List.map_map, same]
    exact table.distinct

/-- `DELETE ... WHERE condition`. -/
def deleteAll (table : Table Row Key key) (condition : Row → Bool) : Table Row Key key where
  rows := table.rows.filter fun row => !condition row
  distinct := table.distinct.sublist (List.filter_sublist.map key)

/-- A statement whose condition no row meets leaves the table as it is. -/
theorem update_all_unhit {table : Table Row Key key} {condition : Row → Bool}
    (change : Row → Row) (keyed : ∀ row, key (change row) = key row)
    (unhit : ∀ row ∈ table.rows, condition row = false) :
    table.updateAll condition change keyed = table := by
  obtain ⟨rows, distinct⟩ := table
  have same : (rows.map fun row => if condition row then change row else row) = rows := by
    calc
      _ = rows.map id := by
        apply List.map_congr_left
        intro row member
        simp [unhit row member]
      _ = rows := List.map_id rows
  simp only [updateAll]
  congr

/-- An update of rows that a selection leaves out, before and after, is not seen by it. -/
theorem select_update_all {table : Table Row Key key} {condition wanted : Row → Bool}
    {change : Row → Row} (keyed : ∀ row, key (change row) = key row)
    (apart : ∀ row ∈ table.rows, condition row = true →
      wanted row = false ∧ wanted (change row) = false) :
    (table.updateAll condition change keyed).select wanted = table.select wanted := by
  obtain ⟨rows, distinct⟩ := table
  simp only [select, updateAll] at apart ⊢
  clear distinct
  induction rows with
  | nil => rfl
  | cons head rows ih =>
      have rest := ih fun row member => apart row (List.mem_cons_of_mem _ member)
      by_cases hit : condition head = true
      · obtain ⟨before, after⟩ := apart head List.mem_cons_self hit
        simp [hit, before, after, rest]
      · simp [hit, List.filter_cons, rest]

theorem delete_all_unhit {table : Table Row Key key} {condition : Row → Bool}
    (unhit : ∀ row ∈ table.rows, condition row = false) : table.deleteAll condition = table := by
  obtain ⟨rows, distinct⟩ := table
  have same : rows.filter (fun row => !condition row) = rows := by
    rw [List.filter_eq_self]
    intro row member
    simp [unhit row member]
  simp only [deleteAll]
  congr

theorem delete_all_congr {table : Table Row Key key} {condition other : Row → Bool}
    (same : ∀ row ∈ table.rows, condition row = other row) :
    table.deleteAll condition = table.deleteAll other := by
  have kept : table.rows.filter (fun row => !condition row) = table.rows.filter fun row => !other row := by
    apply List.filter_congr
    intro row member
    rw [same row member]
  simp only [deleteAll, kept]

theorem delete_all_twice (table : Table Row Key key) (condition : Row → Bool) :
    (table.deleteAll condition).deleteAll condition = table.deleteAll condition := by
  simp [deleteAll]

variable [DecidableEq Key]

def get (table : Table Row Key key) (wanted : Key) : Option Row :=
  table.rows.find? fun row => key row = wanted

theorem get_key {table : Table Row Key key} {wanted : Key} {row : Row}
    (found : table.get wanted = some row) : key row = wanted := by
  simpa using List.find?_some found

/-- The row under a key, with the fact that it is. -/
def find (table : Table Row Key key) (wanted : Key) : Option {row : Row // key row = wanted} :=
  match found : table.get wanted with
  | none => none
  | some row => some ⟨row, get_key found⟩

/-- `INSERT`; `none` when the key is taken. -/
def insert (table : Table Row Key key) (row : Row) : Option (Table Row Key key) :=
  if free : key row ∉ table.rows.map key then
    some
      { rows := table.rows ++ [row]
        distinct := by
          rw [List.map_append, List.nodup_append]
          refine ⟨table.distinct, List.nodup_singleton _, ?_⟩
          intro other member last final same
          simp only [List.map_cons, List.map_nil, List.mem_singleton] at final
          exact free (final ▸ same ▸ member) }
  else none

/-- `UPDATE ... WHERE id = wanted AND condition`. -/
def update (table : Table Row Key key) (wanted : Key) (condition : Row → Bool)
    (change : Row → Row) (keyed : ∀ row, key (change row) = key row) : Table Row Key key :=
  table.updateAll (fun row => decide (key row = wanted) && condition row) change keyed

/-- Whether an `UPDATE` or `DELETE` with this key and condition reports a row. -/
def matched (table : Table Row Key key) (wanted : Key) (condition : Row → Bool) : Bool :=
  (table.get wanted).any condition

/-- `DELETE ... WHERE id = wanted AND condition`. -/
def delete (table : Table Row Key key) (wanted : Key) (condition : Row → Bool) :
    Table Row Key key :=
  table.deleteAll fun row => decide (key row = wanted) && condition row

theorem find_eq_some {table : Table Row Key key} {wanted : Key}
    {row : {row : Row // key row = wanted}} :
    table.find wanted = some row ↔ table.get wanted = some row.1 := by
  unfold find
  split
  · rename_i missing
    simp [missing]
  · rename_i found present
    simp [present, Subtype.ext_iff]

theorem find_eq_none {table : Table Row Key key} {wanted : Key} :
    table.find wanted = none ↔ table.get wanted = none := by
  unfold find
  split <;> rename_i found <;> simp [found]

theorem get_mem {table : Table Row Key key} {wanted : Key} {row : Row}
    (found : table.get wanted = some row) : row ∈ table.rows :=
  List.mem_of_find?_eq_some found

theorem mem_get {table : Table Row Key key} {row : Row} (member : row ∈ table.rows) :
    table.get (key row) = some row := by
  obtain ⟨rows, distinct⟩ := table
  simp only [get] at member ⊢
  induction rows with
  | nil => cases member
  | cons head rows ih =>
      simp only [List.map_cons, List.nodup_cons] at distinct
      rcases List.mem_cons.mp member with rfl | later
      · simp
      · have other : key head ≠ key row := by
          intro same
          exact distinct.1 (same ▸ List.mem_map_of_mem later)
        rw [List.find?_cons_of_neg (by simpa using other)]
        exact ih distinct.2 later

theorem mem_select {table : Table Row Key key} {condition : Row → Bool} {row : Row} :
    row ∈ table.select condition ↔ table.get (key row) = some row ∧ condition row := by
  rw [select, List.mem_filter]
  exact and_congr_left fun _ => ⟨mem_get, get_mem⟩

@[simp] theorem get_update_all (table : Table Row Key key) (condition : Row → Bool)
    (change : Row → Row) (keyed : ∀ row, key (change row) = key row) (wanted : Key) :
    (table.updateAll condition change keyed).get wanted =
      (table.get wanted).map fun row => if condition row then change row else row := by
  obtain ⟨rows, distinct⟩ := table
  simp only [get, updateAll]
  clear distinct
  induction rows with
  | nil => rfl
  | cons head rows ih =>
      have same : key (if condition head then change head else head) = key head := by
        by_cases hit : condition head <;> simp [hit, keyed]
      by_cases here : key head = wanted
      · simp [here, same]
      · simp only [List.map_cons, List.find?_cons, same, here, decide_false]
        exact ih

@[simp] theorem get_update (table : Table Row Key key) (wanted other : Key)
    (condition : Row → Bool) (change : Row → Row)
    (keyed : ∀ row, key (change row) = key row) :
    (table.update wanted condition change keyed).get other =
      (table.get other).map fun row =>
        if other = wanted ∧ condition row then change row else row := by
  rw [update, get_update_all]
  cases found : table.get other with
  | none => rfl
  | some row => simp [get_key found]

theorem get_update_same (table : Table Row Key key) (wanted : Key)
    (condition : Row → Bool) (change : Row → Row)
    (keyed : ∀ row, key (change row) = key row) :
    (table.update wanted condition change keyed).get wanted =
      (table.get wanted).map fun row => if condition row then change row else row := by
  simp

theorem get_update_other (table : Table Row Key key) {wanted other : Key}
    (condition : Row → Bool) (change : Row → Row)
    (keyed : ∀ row, key (change row) = key row) (apart : other ≠ wanted) :
    (table.update wanted condition change keyed).get other = table.get other := by
  simp [apart]

theorem get_insert {table next : Table Row Key key} {row : Row}
    (inserted : table.insert row = some next) (other : Key) :
    next.get other = if key row = other then some row else table.get other := by
  simp only [insert] at inserted
  split at inserted
  · rename_i free
    cases inserted
    simp only [get, List.find?_append]
    by_cases here : key row = other
    · have absent : table.rows.find? (fun row => key row = other) = none := by
        rw [List.find?_eq_none]
        intro candidate member
        simp only [decide_eq_true_eq]
        intro same
        exact free (here ▸ same ▸ List.mem_map_of_mem member)
      simp [absent, here]
    · simp [here]
  · cases inserted

theorem insert_free {table next : Table Row Key key} {row : Row}
    (inserted : table.insert row = some next) : table.get (key row) = none := by
  simp only [insert] at inserted
  split at inserted
  · rename_i free
    rw [get, List.find?_eq_none]
    intro candidate member
    simp only [decide_eq_true_eq]
    intro same
    exact free (same ▸ List.mem_map_of_mem member)
  · cases inserted

@[simp] theorem get_delete_all (table : Table Row Key key) (condition : Row → Bool)
    (wanted : Key) :
    (table.deleteAll condition).get wanted =
      (table.get wanted).filter fun row => !condition row := by
  cases found : (table.deleteAll condition).get wanted with
  | some row =>
      have member := get_mem found
      simp only [deleteAll, List.mem_filter] at member
      have before := mem_get member.1
      rw [get_key found] at before
      rw [before, Option.filter_some, if_pos member.2]
  | none =>
      cases before : table.get wanted with
      | none => rfl
      | some row =>
          by_cases hit : condition row
          · rw [Option.filter_some, if_neg (by simp [hit])]
          · have member : row ∈ (table.deleteAll condition).rows := by
              simp [deleteAll, get_mem before, hit]
            have after := mem_get member
            rw [get_key before, found] at after
            cases after

@[simp] theorem get_delete (table : Table Row Key key) (wanted other : Key)
    (condition : Row → Bool) :
    (table.delete wanted condition).get other =
      (table.get other).filter fun row => !(decide (other = wanted) && condition row) := by
  rw [delete, get_delete_all]
  cases found : table.get other with
  | none => rfl
  | some row => simp [get_key found, Option.filter]

theorem matched_iff {table : Table Row Key key} {wanted : Key} {condition : Row → Bool} :
    table.matched wanted condition = true ↔
      ∃ row, table.get wanted = some row ∧ condition row := by
  simp [matched, Option.any_eq_true]

theorem select_insert {table next : Table Row Key key} {row : Row} {wanted : Row → Bool}
    (inserted : table.insert row = some next) (apart : wanted row = false) :
    next.select wanted = table.select wanted := by
  simp only [insert] at inserted
  split at inserted
  · cases inserted
    simp [select, apart]
  · cases inserted

theorem select_insert_hit {table next : Table Row Key key} {row : Row} {wanted : Row → Bool}
    (inserted : table.insert row = some next) (hit : wanted row = true) :
    next.select wanted = table.select wanted ++ [row] := by
  simp only [insert] at inserted
  split at inserted
  · cases inserted
    simp [select, hit]
  · cases inserted

theorem insert_of_free {table : Table Row Key key} {row : Row} (free : table.get (key row) = none) :
    ∃ next, table.insert row = some next := by
  rw [insert]
  split
  · exact ⟨_, rfl⟩
  · rename_i taken
    obtain ⟨other, member, same⟩ := List.mem_map.mp (not_not.mp taken)
    have found := mem_get member
    rw [same, free] at found
    cases found

theorem update_fixed {table : Table Row Key key} {wanted : Key} {condition : Row → Bool}
    {change : Row → Row} (keyed : ∀ row, key (change row) = key row)
    (fixed : ∀ row, table.get wanted = some row → condition row = true → change row = row) :
    table.update wanted condition change keyed = table := by
  obtain ⟨rows, distinct⟩ := table
  have same : (rows.map fun row => if (decide (key row = wanted) && condition row) = true then
      change row else row) = rows := by
    calc
      _ = rows.map id := by
        apply List.map_congr_left
        intro row member
        have found := @mem_get _ _ key _ ⟨rows, distinct⟩ row member
        by_cases here : key row = wanted
        · by_cases hit : condition row = true
          · simp [here, hit, fixed row (here ▸ found) hit]
          · simp [hit]
        · simp [here]
      _ = rows := List.map_id rows
  simp only [update, updateAll]
  congr

theorem insert_taken {table : Table Row Key key} {row : Row} :
    table.insert row = none ↔ (table.get (key row)).isSome := by
  constructor
  · intro refused
    cases found : table.get (key row) with
    | some other => rfl
    | none =>
        obtain ⟨next, inserted⟩ := insert_of_free found
        rw [refused] at inserted
        cases inserted
  · intro taken
    cases inserted : table.insert row with
    | none => rfl
    | some next =>
        rw [insert_free inserted] at taken
        cases taken

section Twice

variable {table : Table Row Key key} {wanted : Key} {condition : Row → Bool} {first second : Row → Row}
  (settled : ∀ row, table.get wanted = some row → condition row = true → condition (first row) = true)

include settled

theorem matched_update (keyed : ∀ row, key (first row) = key row) :
    (table.update wanted condition first keyed).matched wanted condition =
      table.matched wanted condition := by
  simp only [matched, get_update]
  cases found : table.get wanted with
  | none => rfl
  | some row =>
      by_cases hit : condition row = true
      · simp [hit, settled row found hit]
      · simp [hit]

/-- A second update over the first is the second alone where it undoes all the first did. -/
theorem update_twice (keyed : ∀ row, key (first row) = key row)
    (rekeyed : ∀ row, key (second row) = key row)
    (undone : ∀ row, table.get wanted = some row → condition row = true →
      second (first row) = second row) :
    (table.update wanted condition first keyed).update wanted condition second rekeyed =
      table.update wanted condition second rekeyed := by
  obtain ⟨rows, distinct⟩ := table
  simp only [update, updateAll, List.map_map]
  congr 1
  apply List.map_congr_left
  intro row member
  have found := @mem_get _ _ key _ ⟨rows, distinct⟩ row member
  simp only [Function.comp_apply]
  by_cases here : key row = wanted
  · by_cases hit : condition row = true
    · have again := settled row (here ▸ found) hit
      simp [here, hit, again, keyed, undone row (here ▸ found) hit]
    · simp [here, hit]
  · simp [here]

end Twice

end Table

end Bugalizer.Store
