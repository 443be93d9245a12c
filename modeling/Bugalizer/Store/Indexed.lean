import Bugalizer.Store.Table

/-!
# Tables with a partial unique index

Beside its primary key a row may fill a slot; no two rows of the table fill the same one. The
statements are those of a plain table, and an insertion refuses a filled slot as it refuses a
taken key.
-/

namespace Bugalizer.Store

set_option autoImplicit false

structure Indexed (Row Key : Type) (key : Row → Key) {Slot : Type} (slot : Row → Option Slot) where
  table : Table Row Key key
  single : (table.rows.filterMap slot).Nodup

namespace Indexed

variable {Row Key Slot : Type} {key : Row → Key} {slot : Row → Option Slot}

def empty : Indexed Row Key key slot := ⟨.empty, List.nodup_nil⟩

def rows (indexed : Indexed Row Key key slot) : List Row := indexed.table.rows

/-- `UPDATE ... WHERE condition`, by a change that leaves the key and the slot alone. -/
def updateAll (indexed : Indexed Row Key key slot) (condition : Row → Bool) (change : Row → Row)
    (keyed : ∀ row, key (change row) = key row) (slotted : ∀ row, slot (change row) = slot row) :
    Indexed Row Key key slot where
  table := indexed.table.updateAll condition change keyed
  single := by
    have same : (slot ∘ fun row => if condition row then change row else row) = slot := by
      funext row
      by_cases hit : condition row <;> simp [hit, slotted]
    rw [Table.updateAll, List.filterMap_map, same]
    exact indexed.single

/-- `DELETE ... WHERE condition`. -/
def deleteAll (indexed : Indexed Row Key key slot) (condition : Row → Bool) :
    Indexed Row Key key slot where
  table := indexed.table.deleteAll condition
  single := indexed.single.sublist (List.filter_sublist.filterMap slot)

variable [DecidableEq Slot]

/-- Whether some row fills the slot. -/
def holds (indexed : Indexed Row Key key slot) (wanted : Slot) : Bool :=
  indexed.rows.any fun row => slot row == some wanted

theorem holds_iff {indexed : Indexed Row Key key slot} {wanted : Slot} :
    indexed.holds wanted = true ↔ ∃ row ∈ indexed.rows, slot row = some wanted := by
  simp [holds]

variable [DecidableEq Key]

theorem insert_rows {table next : Table Row Key key} {row : Row}
    (inserted : table.insert row = some next) : next.rows = table.rows ++ [row] := by
  simp only [Table.insert] at inserted
  split at inserted
  · cases inserted
    rfl
  · cases inserted

theorem single_insert {indexed : Indexed Row Key key slot} {table : Table Row Key key} {row : Row}
    (inserted : indexed.table.insert row = some table)
    (free : ∀ filled, slot row = some filled → indexed.holds filled = false) :
    (table.rows.filterMap slot).Nodup := by
  rw [insert_rows inserted, List.filterMap_append, List.nodup_append]
  refine ⟨indexed.single, ?_, ?_⟩
  · rw [List.filterMap_cons]
    cases slot row <;> simp
  · intro filled stored other new same
    subst same
    have fills : slot row = some filled := by simpa using new
    obtain ⟨earlier, member, too⟩ := List.mem_filterMap.mp stored
    have held : indexed.holds filled = true := holds_iff.mpr ⟨earlier, member, too⟩
    rw [free filled fills] at held
    cases held

/-- `INSERT`; `none` when the key is taken or the slot filled. -/
def insert (indexed : Indexed Row Key key slot) (row : Row) : Option (Indexed Row Key key slot) :=
  match inserted : indexed.table.insert row with
  | none => none
  | some table =>
      if filled : (slot row).any indexed.holds = true then none
      else some
        { table
          single := single_insert inserted fun wanted fills => by
            rw [fills, Option.any_some] at filled
            simpa using filled }

end Indexed

end Bugalizer.Store
