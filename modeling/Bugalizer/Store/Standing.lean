import Mathlib

/-!
# Where a stable sort puts a row

A row stands behind the rows that come strictly before it, and behind those of its own rank that
were given earlier; their number is its place.
-/

namespace Bugalizer.Store

set_option autoImplicit false

section Places

variable {Row : Type}

/-- In a list that a strict order sorts, a row has as many rows before it as its index says. -/
theorem count_before {before : Row → Row → Bool} (rows : List Row)
    (irreflexive : ∀ row, before row row = false)
    (asymmetric : ∀ first second, before first second = true → before second first = false)
    (sorted : rows.Pairwise fun first second => before first second = true) {index : Nat} {row : Row}
    (here : rows[index]? = some row) : rows.countP (before · row) = index := by
  induction rows generalizing index with
  | nil => simp at here
  | cons head rows ih =>
      rw [List.pairwise_cons] at sorted
      cases index with
      | zero =>
          cases here
          rw [List.countP_cons_of_neg (by simp [irreflexive]), List.countP_eq_zero]
          intro other member
          simp [asymmetric row other (sorted.1 other member)]
      | succ index =>
          rw [List.getElem?_cons_succ] at here
          have front := sorted.1 row (List.mem_of_getElem? here)
          rw [List.countP_cons_of_pos (p := (before · row)) front, ih sorted.2 here]

variable (le : Row → Row → Bool)

/-- Whether a stable sort puts one row, given at an index, before another. -/
def ahead (first second : Row × Nat) : Bool :=
  le first.1 second.1 && (!le second.1 first.1 || decide (first.2 < second.2))

/-- How many rows a stable sort puts before the one at this index. -/
def standing (rows : List Row) (index : Nat) (row : Row) : Nat :=
  rows.zipIdx.countP fun other => ahead le other (row, index)

variable {le}

theorem ahead_asymmetric {first second : Row × Nat} (front : ahead le first second = true) :
    ahead le second first = false := by
  simp only [ahead, Bool.and_eq_true, Bool.or_eq_true, Bool.not_eq_true', decide_eq_true_eq] at front
  obtain ⟨below, strict | earlier⟩ := front
  · simp [ahead, strict]
  · simp [ahead, below, earlier.le]

theorem ahead_irreflexive (row : Row × Nat) : ahead le row row = false := by
  simp [ahead]

theorem decorated_sorted (transitive : ∀ first second third, le first second = true →
      le second third = true → le first third = true)
    (total : ∀ first second, (le first second || le second first) = true) (rows : List Row) :
    (rows.zipIdx.mergeSort (List.zipIdxLE le)).Pairwise fun first second => ahead le first second = true := by
  have sorted := List.pairwise_mergeSort (List.zipIdxLE_trans transitive) (List.zipIdxLE_total total) rows.zipIdx
  have indices : (rows.zipIdx.map Prod.snd).Nodup := by
    rw [List.zipIdx_map_snd]
    exact List.nodup_range'
  have apart : (rows.zipIdx.mergeSort (List.zipIdxLE le)).Pairwise fun first second => first.2 ≠ second.2 := by
    have shuffled := ((List.mergeSort_perm rows.zipIdx (List.zipIdxLE le)).map Prod.snd).nodup_iff.mpr indices
    exact List.pairwise_map.mp shuffled
  refine sorted.imp₂ ?_ apart
  intro first second ordered different
  simp only [List.zipIdxLE] at ordered
  simp only [ahead]
  split at ordered
  · rename_i below
    split at ordered
    · rename_i above
      have earlier : first.2 < second.2 := lt_of_le_of_ne (of_decide_eq_true ordered) different
      simp [below, earlier]
    · rename_i strict
      simp [below, strict]
  · cases ordered

theorem sorted_at (transitive : ∀ first second third, le first second = true →
      le second third = true → le first third = true)
    (total : ∀ first second, (le first second || le second first) = true) (rows : List Row)
    (place : Nat) (row : Row) :
    (rows.mergeSort le)[place]? = some row ↔
      ∃ index, rows[index]? = some row ∧ standing le rows index row = place := by
  have sorted := decorated_sorted transitive total rows
  have shuffled := List.mergeSort_perm rows.zipIdx (List.zipIdxLE le)
  have counted : ∀ {position : Nat} {item : Row × Nat},
      (rows.zipIdx.mergeSort (List.zipIdxLE le))[position]? = some item →
        standing le rows item.2 item.1 = position := by
    intro position item here
    rw [standing, ← shuffled.countP_eq]
    exact count_before _ ahead_irreflexive (fun _ _ => ahead_asymmetric) sorted here
  rw [← List.mergeSort_zipIdx, List.getElem?_map, Option.map_eq_some_iff]
  constructor
  · rintro ⟨⟨same, index⟩, here, rfl⟩
    have member := shuffled.mem_iff.mp (List.mem_of_getElem? here)
    exact ⟨index, List.mem_zipIdx_iff_getElem?.mp member, counted here⟩
  · rintro ⟨index, here, rfl⟩
    have member : (row, index) ∈ rows.zipIdx.mergeSort (List.zipIdxLE le) :=
      shuffled.mem_iff.mpr (List.mem_zipIdx_iff_getElem?.mpr here)
    obtain ⟨position, found⟩ := List.mem_iff_getElem?.mp member
    refine ⟨(row, index), ?_, rfl⟩
    rw [counted found]
    exact found

end Places

end Bugalizer.Store
