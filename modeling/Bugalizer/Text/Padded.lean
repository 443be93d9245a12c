import Mathlib

/-!
# Numbers in columns of a fixed width

A decimal padded with zeros compares, as a text, the way its number does. Two records of
such columns compare by their first column that differs.
-/

namespace Bugalizer.Text

set_option autoImplicit false

theorem append_lt_append_iff {Letter : Type} [LinearOrder Letter] {first second : List Letter}
    (width : first.length = second.length) (rest other : List Letter) :
    first ++ rest < second ++ other ↔ first < second ∨ first = second ∧ rest < other := by
  induction first generalizing second with
  | nil =>
      have empty : second = [] := List.length_eq_zero_iff.mp width.symm
      subst empty
      simp
  | cons letter first ih =>
      cases second with
      | nil => simp at width
      | cons against second =>
          have shorter : first.length = second.length := by simpa using width
          rw [List.cons_append, List.cons_append, List.cons_lt_cons_iff, List.cons_lt_cons_iff,
            ih shorter, List.cons.injEq]
          tauto

/-- `"%0*d" % (width, number)`. -/
def padded (width number : Nat) : List Char :=
  (Nat.toDigits 10 number).leftpad width '0'

theorem digit_char_lt_iff {first second : Nat} (low : first < 10) (high : second < 10) :
    Nat.digitChar first < Nat.digitChar second ↔ first < second := by
  interval_cases first <;> interval_cases second <;> decide

theorem padded_one {number : Nat} (fits : number < 10) : padded 1 number = [Nat.digitChar number] := by
  rw [padded, Nat.toDigits_of_lt_base fits]
  rfl

/-- The last digit stands behind the number without it. -/
theorem padded_succ (width number : Nat) :
    padded (width + 2) number =
      padded (width + 1) (number / 10) ++ [Nat.digitChar (number % 10)] := by
  by_cases small : number < 10
  · have none : number / 10 = 0 := by omega
    have same : number % 10 = number := by omega
    rw [padded, padded, none, same, Nat.toDigits_of_lt_base small, Nat.toDigits_zero]
    simp [List.leftpad, List.replicate_succ']
  · rw [padded, padded, Nat.toDigits_of_base_le (by omega) (by omega)]
    simp [List.leftpad]

theorem padded_length {width number : Nat} (fits : number < 10 ^ (width + 1)) :
    (padded (width + 1) number).length = width + 1 := by
  induction width generalizing number with
  | zero =>
      rw [padded_one (by omega)]
      rfl
  | succ width ih =>
      have fewer : number / 10 < 10 ^ (width + 1) := by
        rw [Nat.pow_succ] at fits
        omega
      rw [padded_succ, List.length_append, ih fewer]
      rfl

theorem padded_strict {width first second : Nat} (high : second < 10 ^ (width + 1))
    (below : first < second) : padded (width + 1) first < padded (width + 1) second := by
  induction width generalizing first second with
  | zero =>
      rw [padded_one (by omega), padded_one (by omega), List.cons_lt_cons_iff]
      exact .inl ((digit_char_lt_iff (by omega) (by omega)).mpr below)
  | succ width ih =>
      rw [Nat.pow_succ] at high
      have same : (padded (width + 1) (first / 10)).length =
          (padded (width + 1) (second / 10)).length := by
        rw [padded_length (by omega), padded_length (by omega)]
      rw [padded_succ, padded_succ, append_lt_append_iff same]
      by_cases front : first / 10 < second / 10
      · exact .inl (ih (by omega) front)
      · right
        constructor
        · apply congrArg
          omega
        · rw [List.cons_lt_cons_iff]
          exact .inl ((digit_char_lt_iff (by omega) (by omega)).mpr (by omega))

theorem padded_lt_iff {width first second : Nat} (low : first < 10 ^ (width + 1))
    (high : second < 10 ^ (width + 1)) :
    padded (width + 1) first < padded (width + 1) second ↔ first < second := by
  constructor
  · intro less
    by_contra above
    obtain same | more := Nat.eq_or_lt_of_le (Nat.le_of_not_lt above)
    · rw [same] at less
      exact lt_irrefl _ less
    · exact lt_asymm less (padded_strict low more)
  · exact padded_strict high

theorem padded_inj {width first second : Nat} (low : first < 10 ^ (width + 1))
    (high : second < 10 ^ (width + 1)) :
    padded (width + 1) first = padded (width + 1) second ↔ first = second := by
  constructor
  · intro same
    have below := (padded_lt_iff low high).not.mp (by rw [same]; exact lt_irrefl _)
    have above := (padded_lt_iff high low).not.mp (by rw [same]; exact lt_irrefl _)
    omega
  · intro same
    rw [same]

theorem column_lt_iff {width first second : Nat} (low : first < 10 ^ (width + 1))
    (high : second < 10 ^ (width + 1)) (rest other : List Char) :
    padded (width + 1) first ++ rest < padded (width + 1) second ++ other ↔
      first < second ∨ first = second ∧ rest < other := by
  have width : (padded (width + 1) first).length = (padded (width + 1) second).length := by
    rw [padded_length low, padded_length high]
  rw [append_lt_append_iff width, padded_lt_iff low high, padded_inj low high]

end Bugalizer.Text
