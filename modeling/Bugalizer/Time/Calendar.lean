import Mathlib

/-!
# Moments of the Gregorian calendar

A moment as its seven fields, the microseconds it counts since the calendar's first day, and
the moment one microsecond on, with what that carries over. Fields compare from the year
down; that is the order of the moments.
-/

namespace Bugalizer.Time

set_option autoImplicit false

def isLeap (year : Nat) : Bool := year % 4 == 0 && (year % 100 != 0 || year % 400 == 0)

def daysInMonth (year month : Nat) : Nat :=
  if month = 2 then if isLeap year then 29 else 28
  else if month ∈ [4, 6, 9, 11] then 30
  else 31

/-- Days of the year before the first of a month; of month 13, the days of the year. -/
def daysBeforeMonth (year : Nat) : Nat → Nat
  | 0 | 1 => 0
  | month + 2 => daysBeforeMonth year (month + 1) + daysInMonth year (month + 1)

def daysBeforeYear (year : Nat) : Nat :=
  (year - 1) * 365 + (year - 1) / 4 - (year - 1) / 100 + (year - 1) / 400

def ordinal (year month day : Nat) : Nat :=
  daysBeforeYear year + daysBeforeMonth year month + day

def minYear : Nat := 1

def maxYear : Nat := 9999

/-- The fields of a `datetime`. -/
structure Fields where
  year : Nat
  month : Nat
  day : Nat
  hour : Nat
  minute : Nat
  second : Nat
  microsecond : Nat
deriving DecidableEq, Repr

/-- What the constructor of `datetime` checks, but for the last year. -/
structure Fields.Sound (fields : Fields) : Prop where
  year : minYear ≤ fields.year
  month : 1 ≤ fields.month ∧ fields.month ≤ 12
  day : 1 ≤ fields.day ∧ fields.day ≤ daysInMonth fields.year fields.month
  hour : fields.hour < 24
  minute : fields.minute < 60
  second : fields.second < 60
  microsecond : fields.microsecond < 1000000

/-- A `datetime` in UTC. -/
structure DateTime extends Fields where
  sound : toFields.Sound
  bounded : year ≤ maxYear

namespace Fields

/-- Microseconds since the day before the calendar's first. -/
def instant (fields : Fields) : Nat :=
  (((ordinal fields.year fields.month fields.day * 24 + fields.hour) * 60 + fields.minute) * 60 +
    fields.second) * 1000000 + fields.microsecond

/-- What two `datetime`s of one time zone are compared by. -/
def packed (fields : Fields) : List Nat :=
  [fields.year, fields.month, fields.day, fields.hour, fields.minute, fields.second,
    fields.microsecond]

end Fields

def normalizeDate (year month day : Nat) : Nat × Nat × Nat :=
  if day ≤ daysInMonth year month then (year, month, day)
  else if month = 12 then (year + 1, 1, 1)
  else (year, month + 1, 1)

/-- One microsecond more, every field carried into the next. -/
def Fields.ticked (fields : Fields) : Fields :=
  let second := fields.second + (fields.microsecond + 1) / 1000000
  let minute := fields.minute + second / 60
  let hour := fields.hour + minute / 60
  let date := normalizeDate fields.year fields.month (fields.day + hour / 24)
  { year := date.1, month := date.2.1, day := date.2.2, hour := hour % 24, minute := minute % 60
    second := second % 60, microsecond := (fields.microsecond + 1) % 1000000 }

theorem days_in_month_pos (year month : Nat) : 0 < daysInMonth year month := by
  unfold daysInMonth
  split
  · split <;> omega
  · split <;> omega

theorem days_in_month_le (year month : Nat) : daysInMonth year month ≤ 31 := by
  unfold daysInMonth
  split
  · split <;> omega
  · split <;> omega

theorem days_before_next_month {year month : Nat} (some : 1 ≤ month) :
    daysBeforeMonth year (month + 1) = daysBeforeMonth year month + daysInMonth year month := by
  obtain ⟨before, rfl⟩ := Nat.exists_eq_add_of_le' some
  rfl

theorem days_before_month_mono {year first second : Nat} (order : first ≤ second) :
    daysBeforeMonth year first ≤ daysBeforeMonth year second := by
  induction second, order using Nat.le_induction with
  | base => exact le_refl _
  | succ second _ ih =>
      apply ih.trans
      cases second with
      | zero => exact le_refl _
      | succ second => exact Nat.le_add_right _ _

theorem days_of_year (year : Nat) :
    daysBeforeMonth year 13 = if isLeap year then 366 else 365 := by
  simp only [daysBeforeMonth, daysInMonth]
  generalize isLeap year = leap
  cases leap <;> decide

theorem leap_iff (year : Nat) : isLeap year = true ↔ 4 ∣ year ∧ (¬100 ∣ year ∨ 400 ∣ year) := by
  simp [isLeap, Nat.dvd_iff_mod_eq_zero]

theorem days_before_next_year {year : Nat} (some : 1 ≤ year) :
    daysBeforeYear (year + 1) = daysBeforeYear year + daysBeforeMonth year 13 := by
  obtain ⟨before, rfl⟩ := Nat.exists_eq_add_of_le' some
  have fewer : before / 100 ≤ before / 4 := Nat.div_le_div_left (by omega) (by omega)
  have century : 100 ∣ before + 1 → 4 ∣ before + 1 := fun divides => Nat.dvd_trans (by decide) divides
  have cycle : 400 ∣ before + 1 → 100 ∣ before + 1 := fun divides => Nat.dvd_trans (by decide) divides
  rw [days_of_year]
  simp only [daysBeforeYear, leap_iff, Nat.add_sub_cancel, Nat.succ_div]
  generalize before / 4 = fours at fewer ⊢
  generalize before / 100 = centuries at fewer ⊢
  generalize before / 400 = cycles
  by_cases every : 4 ∣ before + 1
  · by_cases hundred : 100 ∣ before + 1
    · by_cases all : 400 ∣ before + 1
      · simp only [every, hundred, all]
        simp
        omega
      · simp [every, hundred, all]
        omega
    · have not : ¬400 ∣ before + 1 := fun divides => hundred (cycle divides)
      simp [every, hundred, not]
      omega
  · have hundred : ¬100 ∣ before + 1 := fun divides => every (century divides)
    have not : ¬400 ∣ before + 1 := fun divides => hundred (cycle divides)
    simp [every, hundred, not]
    omega

theorem days_before_year_mono {first second : Nat} (some : 1 ≤ first) (order : first ≤ second) :
    daysBeforeYear first ≤ daysBeforeYear second := by
  induction second, order using Nat.le_induction with
  | base => exact le_refl _
  | succ second later ih =>
      rw [days_before_next_year (by omega)]
      omega

theorem ordinal_before_month {year month day next : Nat} (some : 1 ≤ month)
    (inside : day ≤ daysInMonth year month) (later : month < next) :
    daysBeforeMonth year month + day ≤ daysBeforeMonth year next := by
  have follows : daysBeforeMonth year (month + 1) = daysBeforeMonth year month + daysInMonth year month :=
    days_before_next_month some
  have grows : daysBeforeMonth year (month + 1) ≤ daysBeforeMonth year next :=
    days_before_month_mono later
  omega

theorem ordinal_before_year {year month day next : Nat} (known : 1 ≤ year) (some : 1 ≤ month)
    (most : month ≤ 12) (inside : day ≤ daysInMonth year month) (later : year < next) :
    ordinal year month day ≤ daysBeforeYear next := by
  have within := ordinal_before_month some inside (by omega : month < 13)
  have follows := days_before_next_year known
  have grows := days_before_year_mono (by omega : 1 ≤ year + 1) later
  unfold ordinal
  omega

theorem radix_lt_iff {base high higher low lower : Nat} (fits : low < base) (fit : lower < base) :
    high * base + low < higher * base + lower ↔ high < higher ∨ high = higher ∧ low < lower := by
  constructor
  · intro less
    obtain above | same | below := Nat.lt_trichotomy high higher
    · exact .inl above
    · subst same
      exact .inr ⟨rfl, by omega⟩
    · have step := Nat.mul_le_mul_right base (Nat.succ_le_of_lt below)
      rw [Nat.succ_mul] at step
      omega
  · rintro (above | ⟨rfl, below⟩)
    · have step := Nat.mul_le_mul_right base (Nat.succ_le_of_lt above)
      rw [Nat.succ_mul] at step
      omega
    · omega

theorem radix_inj {base high higher low lower : Nat} (fits : low < base) (fit : lower < base) :
    high * base + low = higher * base + lower ↔ high = higher ∧ low = lower := by
  have less : high * base + low < higher * base + lower ↔ _ := radix_lt_iff fits fit
  have more : higher * base + lower < high * base + low ↔ _ := radix_lt_iff fit fits
  omega

namespace Fields

variable {first second : Fields}

theorem ordinal_lt_iff (early : first.Sound) (late : second.Sound) :
    ordinal first.year first.month first.day < ordinal second.year second.month second.day ↔
      first.year < second.year ∨ first.year = second.year ∧
        (first.month < second.month ∨ first.month = second.month ∧ first.day < second.day) := by
  have ahead {one other : Fields} (before : one.Sound) (behind : other.Sound)
      (less : one.year < other.year ∨ one.year = other.year ∧
        (one.month < other.month ∨ one.month = other.month ∧ one.day < other.day)) :
      ordinal one.year one.month one.day < ordinal other.year other.month other.day := by
    have counted := behind.day.1
    obtain years | ⟨year, months | ⟨month, days⟩⟩ := less
    · have closed := ordinal_before_year before.year before.month.1 before.month.2 before.day.2 years
      apply closed.trans_lt
      unfold ordinal
      omega
    · have closed := ordinal_before_month before.month.1 before.day.2 months
      unfold ordinal
      rw [← year]
      omega
    · unfold ordinal
      rw [← year, ← month]
      omega
  constructor
  · intro less
    by_contra above
    have order : ordinal second.year second.month second.day ≤
        ordinal first.year first.month first.day := by
      by_cases same : first.year = second.year ∧ first.month = second.month ∧ first.day = second.day
      · rw [same.1, same.2.1, same.2.2]
      · exact (ahead late early (by omega)).le
    omega
  · exact ahead early late

theorem ordinal_inj (early : first.Sound) (late : second.Sound) :
    ordinal first.year first.month first.day = ordinal second.year second.month second.day ↔
      first.year = second.year ∧ first.month = second.month ∧ first.day = second.day := by
  have less := ordinal_lt_iff early late
  have more := ordinal_lt_iff late early
  omega

theorem packed_lt_iff (early : first.Sound) (late : second.Sound) :
    first.packed < second.packed ↔ first.instant < second.instant := by
  unfold packed instant
  simp only [radix_lt_iff early.microsecond late.microsecond, radix_lt_iff early.second late.second,
    radix_lt_iff early.minute late.minute, radix_lt_iff early.hour late.hour,
    radix_inj early.second late.second, radix_inj early.minute late.minute,
    radix_inj early.hour late.hour, ordinal_lt_iff early late, ordinal_inj early late,
    List.cons_lt_cons_iff, List.lt_irrefl, and_false, or_false, and_or_left, or_assoc, and_assoc]

theorem normalize_date_ordinal {year month day : Nat} (known : 1 ≤ year) (some : 1 ≤ month)
    (most : month ≤ 12) (inside : day ≤ daysInMonth year month + 1) :
    let date := normalizeDate year month day
    ordinal date.1 date.2.1 date.2.2 = ordinal year month day := by
  dsimp only
  unfold normalizeDate
  split
  · rfl
  · have last : day = daysInMonth year month + 1 := by omega
    split
    · rename_i december
      subst december
      have next := days_before_next_year known
      have filled : daysBeforeMonth year 13 = daysBeforeMonth year 12 + daysInMonth year 12 :=
        days_before_next_month some
      have none : daysBeforeMonth (year + 1) 1 = 0 := rfl
      unfold ordinal
      dsimp only
      omega
    · have filled : daysBeforeMonth year (month + 1) = daysBeforeMonth year month + daysInMonth year month :=
        days_before_next_month some
      unfold ordinal
      dsimp only
      omega

theorem normalize_date_sound {year month day : Nat} (known : minYear ≤ year)
    (some : 1 ≤ month ∧ month ≤ 12) (counted : 1 ≤ day) :
    let date := normalizeDate year month day
    minYear ≤ date.1 ∧ (1 ≤ date.2.1 ∧ date.2.1 ≤ 12) ∧
      (1 ≤ date.2.2 ∧ date.2.2 ≤ daysInMonth date.1 date.2.1) := by
  have first (year month : Nat) : 1 ≤ daysInMonth year month := days_in_month_pos year month
  unfold normalizeDate
  split
  · rename_i inside
    exact ⟨known, some, counted, inside⟩
  · split
    · exact ⟨Nat.le_succ_of_le known, by simp, le_refl 1, first _ _⟩
    · exact ⟨known, by dsimp only; omega, le_refl 1, first _ _⟩

theorem ticked_sound {fields : Fields} (sound : fields.Sound) : fields.ticked.Sound := by
  let second := fields.second + (fields.microsecond + 1) / 1000000
  let hour := fields.hour + (fields.minute + second / 60) / 60
  have counted : 1 ≤ fields.day + hour / 24 := Nat.le_add_right_of_le sound.day.1
  have date := normalize_date_sound sound.year sound.month counted
  constructor
  · exact date.1
  · exact date.2.1
  · exact date.2.2
  · exact Nat.mod_lt _ (by decide)
  · exact Nat.mod_lt _ (by decide)
  · exact Nat.mod_lt _ (by decide)
  · exact Nat.mod_lt _ (by decide)

theorem ticked_instant {fields : Fields} (sound : fields.Sound) :
    fields.ticked.instant = fields.instant + 1 := by
  obtain ⟨hours, minutes, seconds, microseconds⟩ :=
    And.intro sound.hour (And.intro sound.minute (And.intro sound.second sound.microsecond))
  unfold ticked instant
  dsimp only
  generalize carrySecond : (fields.microsecond + 1) / 1000000 = second
  generalize carryMinute : (fields.second + second) / 60 = minute
  generalize carryHour : (fields.minute + minute) / 60 = hour
  generalize carryDay : (fields.hour + hour) / 24 = more
  have most : fields.day + more ≤ daysInMonth fields.year fields.month + 1 := by
    have inside := sound.day.2
    omega
  have date := normalize_date_ordinal sound.year sound.month.1 sound.month.2 most
  dsimp only at date
  rw [date]
  unfold ordinal
  omega

end Fields

namespace DateTime

/-- `moment + timedelta(microseconds=1)`, which has no answer past the last year. -/
def tick (moment : DateTime) : Option DateTime :=
  if bounded : moment.ticked.year ≤ maxYear then
    some { moment.ticked with sound := Fields.ticked_sound moment.sound, bounded }
  else none

theorem tick_instant {moment next : DateTime} (ticked : moment.tick = some next) :
    next.instant = moment.instant + 1 := by
  unfold tick at ticked
  split at ticked
  · cases ticked
    exact Fields.ticked_instant moment.sound
  · cases ticked

end DateTime

end Bugalizer.Time
