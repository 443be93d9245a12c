import Bugalizer.Text.Padded
import Bugalizer.Time.Calendar

/-!
# Moments as texts

`datetime.isoformat` leaves the fraction out where it is zero, so its texts have two lengths.
They are in the order of the moments all the same: a plus sign comes before a dot.
-/

namespace Bugalizer.Time

set_option autoImplicit false

open Text

/-- What `isoformat` writes behind the seconds. -/
def fraction (microsecond : Nat) : List Char :=
  if microsecond = 0 then "+00:00".toList else '.' :: (padded 6 microsecond ++ "+00:00".toList)

def Fields.isoformat (fields : Fields) : String :=
  String.ofList <|
    padded 4 fields.year ++ ('-' :: (padded 2 fields.month ++ ('-' :: (padded 2 fields.day ++
      ('T' :: (padded 2 fields.hour ++ (':' :: (padded 2 fields.minute ++
        (':' :: (padded 2 fields.second ++ fraction fields.microsecond))))))))))

theorem fraction_lt_iff {first second : Nat} (low : first < 1000000) (high : second < 1000000) :
    fraction first < fraction second ↔ first < second := by
  have whole : "+00:00".toList = '+' :: "00:00".toList := by decide
  have plus : '+' < '.' := by decide
  have dot : ¬( '.' < '+') := by decide
  have other : '.' ≠ '+' := by decide
  unfold fraction
  split
  · split
    · simp only [lt_irrefl, false_iff]
      omega
    · rw [whole, List.cons_lt_cons_iff]
      simp only [plus, true_or, true_iff]
      omega
  · split
    · rw [whole, List.cons_lt_cons_iff]
      simp only [dot, other, false_and, or_false, false_iff]
      omega
    · have low : first < 10 ^ (5 + 1) := low
      have high : second < 10 ^ (5 + 1) := high
      rw [List.cons_lt_cons_iff, column_lt_iff low high]
      simp only [lt_irrefl, true_and, false_or, and_false, or_false]

theorem separator_lt_iff (separator : Char) (rest other : List Char) :
    separator :: rest < separator :: other ↔ rest < other := by
  rw [List.cons_lt_cons_iff]
  simp only [lt_irrefl, true_and, false_or]

namespace DateTime

theorem columns_hold (moment : DateTime) :
    moment.year < 10 ^ (3 + 1) ∧ moment.month < 10 ^ (1 + 1) ∧ moment.day < 10 ^ (1 + 1) ∧
      moment.hour < 10 ^ (1 + 1) ∧ moment.minute < 10 ^ (1 + 1) ∧ moment.second < 10 ^ (1 + 1) := by
  obtain ⟨-, month, day, hour, minute, second, -⟩ := moment.sound
  have year : moment.year ≤ 9999 := moment.bounded
  have most := days_in_month_le moment.year moment.month
  omega

theorem isoformat_lt_packed (first second : DateTime) :
    first.isoformat < second.isoformat ↔ first.packed < second.packed := by
  obtain ⟨year, month, day, hour, minute, whole⟩ := columns_hold first
  obtain ⟨year', month', day', hour', minute', whole'⟩ := columns_hold second
  unfold Fields.isoformat Fields.packed
  rw [String.lt_iff, String.toList_ofList, String.toList_ofList,
    column_lt_iff year year', separator_lt_iff, column_lt_iff month month', separator_lt_iff,
    column_lt_iff day day', separator_lt_iff, column_lt_iff hour hour', separator_lt_iff,
    column_lt_iff minute minute', separator_lt_iff, column_lt_iff whole whole',
    fraction_lt_iff first.sound.microsecond second.sound.microsecond]
  simp only [List.cons_lt_cons_iff, List.lt_irrefl, and_false, or_false]

theorem isoformat_lt_iff (first second : DateTime) :
    first.isoformat < second.isoformat ↔ first.instant < second.instant := by
  rw [isoformat_lt_packed, Fields.packed_lt_iff first.sound second.sound]

end DateTime

end Bugalizer.Time
