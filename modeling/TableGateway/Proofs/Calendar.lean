import Mathlib.Tactic.Lemma
import TableGateway.Calendar

/-!
# The order of time

Days are numbered from a first one on, leap years and all, and the seconds of a day from midnight
on.  By these numbers one date with a time is not after another; the fields of a date and of a time
of day, compared from the largest to the smallest, say the same.

* `Date.dayNumber` — the number of a day; `Date.dayNumber_lt_iff` compares two of them.
* `TimeOfDay.NotAfter`, `DateTime.NotAfter` — the order of time.  A leap second comes after the
  second that it prolongs and before the next one.
* `TimeOfDay.notAfter_iff`, `DateTime.notAfter_iff` — that order by fields.
-/

namespace TableGateway

/-! ## Days -/

/-- The number of days of the years before a year, counted from the year 1 on. -/
def daysBeforeYear (year : Int) : Int :=
  365 * (year - 1) + (year - 1) / 4 - (year - 1) / 100 + (year - 1) / 400

/-- The number of days of the first months of a year. -/
def daysOfMonths (year : Int) : Nat → Nat
  | 0 => 0
  | month + 1 => daysOfMonths year month + daysInMonth year (month + 1)

/-- The number of a day. -/
def Date.dayNumber (d : Date) : Int :=
  daysBeforeYear d.year + daysOfMonths d.year (d.month - 1) + d.day

/-- The leap years are every fourth year, but of the full centuries only every fourth. -/
lemma isLeapYear_eq (year : Int) :
    isLeapYear year = true ↔ year % 4 = 0 ∧ (year % 100 ≠ 0 ∨ year % 400 = 0) := by
  simp [isLeapYear]

/-- A year has 366 days or 365. -/
lemma daysOfMonths_twelve (year : Int) :
    daysOfMonths year 12 = if isLeapYear year then 366 else 365 := by
  by_cases h : isLeapYear year = true
  · simp [daysOfMonths, daysInMonth, h]
  · simp [daysOfMonths, daysInMonth, h]

/-- More months have no fewer days. -/
lemma daysOfMonths_mono (year : Int) {m n : Nat} (h : m ≤ n) :
    daysOfMonths year m ≤ daysOfMonths year n := by
  induction h with
  | refl => exact Nat.le_refl _
  | step _ ih => exact Nat.le_trans ih (Nat.le_add_right _ _)

/-- A year has as many days as its months. -/
lemma daysBeforeYear_succ (year : Int) :
    daysBeforeYear (year + 1) = daysBeforeYear year + daysOfMonths year 12 := by
  rw [daysOfMonths_twelve, daysBeforeYear, daysBeforeYear]
  by_cases h : isLeapYear year = true
  · rw [if_pos h]
    rw [isLeapYear_eq] at h
    omega
  · rw [if_neg h]
    rw [isLeapYear_eq] at h
    omega

/-- Before a later year there are no fewer days. -/
lemma daysBeforeYear_mono {a b : Int} (h : a ≤ b) : daysBeforeYear a ≤ daysBeforeYear b := by
  rw [daysBeforeYear, daysBeforeYear]
  omega

namespace Date

variable {a b : Date}

/-- A day lies in its month. -/
lemma day_bounds (d : Date) : 1 ≤ d.day ∧
    daysOfMonths d.year (d.month - 1) + d.day ≤ daysOfMonths d.year d.month := by
  obtain ⟨hmonth, -, hday, hdays⟩ := d.valid
  obtain ⟨m, hm⟩ : ∃ m, d.month = m + 1 := ⟨d.month - 1, by omega⟩
  rw [hm] at hdays ⊢
  exact ⟨hday, Nat.add_le_add_left hdays _⟩

lemma dayNumber_lt_of_year (h : a.year < b.year) : a.dayNumber < b.dayNumber := by
  obtain ⟨-, hmonth, -, -⟩ := a.valid
  have hlast := daysOfMonths_mono a.year hmonth
  have hnext := daysBeforeYear_succ a.year
  have hyears := daysBeforeYear_mono (show a.year + 1 ≤ b.year from h)
  have ha := a.day_bounds
  have hb := b.day_bounds
  rw [dayNumber, dayNumber]
  omega

lemma dayNumber_lt_of_month (hyear : a.year = b.year) (h : a.month < b.month) :
    a.dayNumber < b.dayNumber := by
  have hmonths := daysOfMonths_mono b.year (show a.month ≤ b.month - 1 by omega)
  have ha := a.day_bounds
  have hb := b.day_bounds
  rw [hyear] at ha
  rw [dayNumber, dayNumber, hyear]
  omega

/-- The fields of a day are before those of another one. -/
def Before (a b : Date) : Prop :=
  a.year < b.year ∨ a.year = b.year ∧ (a.month < b.month ∨ a.month = b.month ∧ a.day < b.day)

/-- A later date has a larger number. -/
lemma dayNumber_lt_of_before (h : a.Before b) : a.dayNumber < b.dayNumber := by
  rcases h with hyear | ⟨hyear, hmonth | ⟨hmonth, hday⟩⟩
  · exact dayNumber_lt_of_year hyear
  · exact dayNumber_lt_of_month hyear hmonth
  · rw [dayNumber, dayNumber, hyear, hmonth]
    omega

/-- Of two days one is before the other, or they are the same. -/
lemma before_trichotomy (a b : Date) : a.Before b ∨ a = b ∨ b.Before a := by
  obtain ⟨ay, am, ad, _⟩ := a
  obtain ⟨year, month, day, _⟩ := b
  simp only [Before, Date.mk.injEq]
  omega

/-- The numbers of days have the order of dates. -/
theorem dayNumber_lt_iff : a.dayNumber < b.dayNumber ↔ a.Before b := by
  refine ⟨fun h => ?_, dayNumber_lt_of_before⟩
  rcases before_trichotomy a b with hab | rfl | hba
  · exact hab
  · exact absurd h (Int.lt_irrefl _)
  · exact absurd (dayNumber_lt_of_before hba) (Int.not_lt.mpr (Int.le_of_lt h))

/-- Each day has a number of its own. -/
lemma dayNumber_inj : a.dayNumber = b.dayNumber ↔ a = b := by
  refine ⟨fun h => ?_, congrArg dayNumber⟩
  rcases before_trichotomy a b with hab | heq | hba
  · exact absurd (dayNumber_lt_of_before hab) (by omega)
  · exact heq
  · exact absurd (dayNumber_lt_of_before hba) (by omega)

/-- The first of January of the year 1 has the number one. -/
example : dayNumber ⟨1, 1, 1, by decide⟩ = 1 ∧ dayNumber ⟨1970, 1, 1, by decide⟩ = 719163 := by
  decide

end Date

/-! ## Times -/

namespace TimeOfDay

/-- The number of seconds from midnight to the second of a time. -/
def secondOfDay (t : TimeOfDay) : Nat :=
  t.hour * 3600 + t.minute * 60 + t.second

/-- A time of day is not after another one. -/
def NotAfter (s t : TimeOfDay) : Prop :=
  s.secondOfDay < t.secondOfDay ∨ s.secondOfDay = t.secondOfDay ∧ s.nano ≤ t.nano

/-- Times of day are in the order of their fields, the larger units first. -/
theorem notAfter_iff {s t : TimeOfDay} : s.NotAfter t ↔
    s.hour < t.hour ∨ s.hour = t.hour ∧ (s.minute < t.minute ∨ s.minute = t.minute ∧
      (s.second < t.second ∨ s.second = t.second ∧ s.nano ≤ t.nano)) := by
  have hs := s.valid
  have ht := t.valid
  rw [NotAfter, secondOfDay, secondOfDay]
  omega

end TimeOfDay

/-- A date with a time is not after another one. -/
def DateTime.NotAfter (s t : DateTime) : Prop :=
  s.date.dayNumber < t.date.dayNumber ∨
    s.date.dayNumber = t.date.dayNumber ∧ s.time.NotAfter t.time

/-- Dates count before times of day. -/
theorem DateTime.notAfter_iff {s t : DateTime} : s.NotAfter t ↔
    s.date.Before t.date ∨ s.date = t.date ∧ s.time.NotAfter t.time := by
  rw [NotAfter, Date.dayNumber_lt_iff, Date.dayNumber_inj]

end TableGateway
