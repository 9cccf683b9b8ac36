import TableGateway.Proofs.Calendar
import TableGateway.Proofs.Cell

/-!
# Temporal values as cells

A date, a date with a time, or a time binds as a cell of numbers that are its own fields, each
within its range; only a fraction is cut, to microseconds.  These numbers, compared from the largest
field to the smallest, keep the order of time.  A year that the protocol has no place for makes a
date bind as its text.

* `LexLe` — numbers compared from the first one on.
* `RawDate.Carries`, `RawTime.Carries` — a cell has the fields of a value.
* `RawDate.InRange`, `RawTime.InRange` — the fields of a cell are those of a month and of a clock.
* `RawDate.Carries.tuple_le`, `RawTime.Carries.tuple_le` — cells keep the order of what they carry.
* `Value.BoundAs` — a temporal value and the cell that it should have; `Value.NotAfter`,
  `Cell.NotAfter` — the order of temporal values, and of cells field by field.
* **`Value.toCell_temporal`** — temporal values bind as they should, and in their order.
-/

namespace TableGateway

/-! ## The order of fields -/

/-- Numbers that are not after others, compared from the first one on. -/
def LexLe (a b : List Nat) : Prop :=
  a = b ∨ List.Lex (· < ·) a b

lemma lexLe_nil : LexLe [] [] :=
  .inl rfl

lemma lexLe_cons {m n : Nat} {a b : List Nat} :
    LexLe (m :: a) (n :: b) ↔ m < n ∨ m = n ∧ LexLe a b := by
  rw [LexLe, LexLe, List.cons.injEq, List.cons_lex_cons_iff, and_or_left, or_left_comm]

/-! ## What a cell carries -/

/-- A year that the protocol has a place for. -/
def Date.IsNative (d : Date) : Prop :=
  0 ≤ d.year ∧ d.year ≤ 9999

instance (d : Date) : Decidable d.IsNative :=
  inferInstanceAs (Decidable (_ ∧ _))

/-- The whole microseconds of a time.  A leap second stays at the last one before it. -/
def TimeOfDay.micros (t : TimeOfDay) : Nat :=
  if t.nano < 1000000000 then t.nano / 1000 else 999999

/-- The microseconds of the protocol are those of the time. -/
lemma TimeOfDay.toNat_microsOf (t : TimeOfDay) : (RawDate.microsOf t.nano).toNat = t.micros := by
  rw [RawDate.toNat_microsOf, micros]
  split
  · omega
  · omega

/-- A time of day has fewer microseconds than a second has. -/
lemma TimeOfDay.micros_lt (t : TimeOfDay) : t.micros < 1000000 := by
  rw [micros]
  split
  · omega
  · omega

/-- In one second, a greater fraction has as many microseconds or more. -/
lemma TimeOfDay.micros_le {s t : TimeOfDay} (h : s.nano ≤ t.nano) : s.micros ≤ t.micros := by
  rw [← toNat_microsOf, ← toNat_microsOf, RawDate.toNat_microsOf, RawDate.toNat_microsOf]
  omega

namespace RawDate

/-- A cell with the fields of a date with a time. -/
structure Carries (raw : RawDate) (t : DateTime) : Prop where
  year : (raw.year.toNat : Int) = t.date.year
  month : raw.month.toNat = t.date.month
  day : raw.day.toNat = t.date.day
  hour : raw.hour.toNat = t.time.hour
  minute : raw.minute.toNat = t.time.minute
  second : raw.second.toNat = t.time.second
  micros : raw.micros.toNat = t.time.micros

/-- The fields are those of a month and of a clock.  A month and a day may also be zero, and a day
may come after the last one of its month. -/
structure InRange (raw : RawDate) : Prop where
  month : raw.month.toNat ≤ 12
  day : raw.day.toNat ≤ 31
  hour : raw.hour.toNat < 24
  minute : raw.minute.toNat < 60
  second : raw.second.toNat < 60
  micros : raw.micros.toNat < 1000000

instance (raw : RawDate) : Decidable raw.InRange :=
  decidable_of_iff (raw.month.toNat ≤ 12 ∧ raw.day.toNat ≤ 31 ∧ raw.hour.toNat < 24 ∧
      raw.minute.toNat < 60 ∧ raw.second.toNat < 60 ∧ raw.micros.toNat < 1000000)
    ⟨fun ⟨month, day, hour, minute, second, micros⟩ => ⟨month, day, hour, minute, second, micros⟩,
      fun ⟨month, day, hour, minute, second, micros⟩ => ⟨month, day, hour, minute, second, micros⟩⟩

/-- The fields from the largest to the smallest. -/
def tuple (raw : RawDate) : List Nat :=
  [raw.year.toNat, raw.month.toNat, raw.day.toNat, raw.hour.toNat, raw.minute.toNat,
    raw.second.toNat, raw.micros.toNat]

variable {raw : RawDate} {t : DateTime}

/-- A date that carries a date and time is in range. -/
lemma Carries.inRange (h : raw.Carries t) : raw.InRange := by
  obtain ⟨-, hmonth, -, hday⟩ := t.date.valid
  obtain ⟨hhour, hminute, hsecond, -⟩ := t.time.valid
  have hdays := daysInMonth_le t.date.year t.date.month
  refine ⟨?_, ?_, ?_, ?_, ?_, ?_⟩
  · rwa [h.month]
  · rw [h.day]
    exact Nat.le_trans hday hdays
  · rwa [h.hour]
  · rwa [h.minute]
  · rwa [h.second]
  · rw [h.micros]
    exact t.time.micros_lt

/-- No field loses anything in the width that it has in a cell. -/
lemma carries_of_toRaw? (h : t.toRaw? = some raw) : raw.Carries t := by
  have hsize : UInt8.size = 256 := rfl
  obtain ⟨year, hyear, rfl⟩ := Option.map_eq_some_iff.mp h
  obtain ⟨-, hmonth, -, hday⟩ := t.date.valid
  obtain ⟨hhour, hminute, hsecond, -⟩ := t.time.valid
  have hdays := daysInMonth_le t.date.year t.date.month
  refine ⟨toNat_of_year? hyear, ?_, ?_, ?_, ?_, ?_, t.time.toNat_microsOf⟩
  · exact UInt8.toNat_ofNat_of_lt' (by omega)
  · exact UInt8.toNat_ofNat_of_lt' (by omega)
  · exact UInt8.toNat_ofNat_of_lt' (by omega)
  · exact UInt8.toNat_ofNat_of_lt' (by omega)
  · exact UInt8.toNat_ofNat_of_lt' (by omega)

/-- A native date is carried by the protocol. -/
lemma exists_toRaw? (h : t.date.IsNative) : ∃ raw, t.toRaw? = some raw := by
  have hyear : year? t.date.year = some (UInt16.ofNat t.date.year.toNat) := if_pos h
  exact ⟨_, by rw [DateTime.toRaw?, hyear]; rfl⟩

/-- A date that is not native is not carried by the protocol. -/
lemma toRaw?_eq_none (h : ¬ t.date.IsNative) : t.toRaw? = none := by
  have hyear : year? t.date.year = none := if_neg h
  rw [DateTime.toRaw?, hyear]
  rfl

/-- Cells keep the order of dates with times. -/
theorem Carries.tuple_le {s : DateTime} {first : RawDate} (hs : first.Carries s)
    (ht : raw.Carries t) (h : s.NotAfter t) : LexLe first.tuple raw.tuple := by
  simp only [tuple, lexLe_cons, lexLe_nil, and_true]
  rcases DateTime.notAfter_iff.mp h with hdate | ⟨hdate, htime⟩
  · rw [Date.Before, ← hs.year, ← hs.month, ← hs.day, ← ht.year, ← ht.month, ← ht.day] at hdate
    omega
  · have hyear : (first.year.toNat : Int) = raw.year.toNat := by rw [hs.year, ht.year, hdate]
    have hmonth : first.month.toNat = raw.month.toNat := by rw [hs.month, ht.month, hdate]
    have hday : first.day.toNat = raw.day.toNat := by rw [hs.day, ht.day, hdate]
    have hmicros : s.time.nano ≤ t.time.nano → first.micros.toNat ≤ raw.micros.toNat := by
      intro hnano
      rw [hs.micros, ht.micros]
      exact TimeOfDay.micros_le hnano
    rw [TimeOfDay.notAfter_iff, ← hs.hour, ← hs.minute, ← hs.second, ← ht.hour, ← ht.minute,
      ← ht.second] at htime
    omega

end RawDate

namespace RawTime

/-- A cell with the fields of a time of day. -/
structure Carries (raw : RawTime) (t : TimeOfDay) : Prop where
  positive : raw.negative = false
  days : raw.days.toNat = 0
  hours : raw.hours.toNat = t.hour
  minutes : raw.minutes.toNat = t.minute
  seconds : raw.seconds.toNat = t.second
  micros : raw.micros.toNat = t.micros

/-- The fields are those of a clock. -/
structure InRange (raw : RawTime) : Prop where
  hours : raw.hours.toNat < 24
  minutes : raw.minutes.toNat < 60
  seconds : raw.seconds.toNat < 60
  micros : raw.micros.toNat < 1000000

/-- The sign, and the fields from the largest to the smallest. -/
def tuple (raw : RawTime) : List Nat :=
  [raw.negative.toNat, raw.days.toNat, raw.hours.toNat, raw.minutes.toNat, raw.seconds.toNat,
    raw.micros.toNat]

variable {raw : RawTime} {t : TimeOfDay}

/-- A time that carries a time of day is in range. -/
lemma Carries.inRange (h : raw.Carries t) : raw.InRange := by
  obtain ⟨hhour, hminute, hsecond, -⟩ := t.valid
  refine ⟨?_, ?_, ?_, ?_⟩
  · rwa [h.hours]
  · rwa [h.minutes]
  · rwa [h.seconds]
  · rw [h.micros]
    exact t.micros_lt

/-- Every time of day is carried by the protocol. -/
lemma carries_toRaw (t : TimeOfDay) : t.toRaw.Carries t := by
  have hsize : UInt8.size = 256 := rfl
  obtain ⟨hhour, hminute, hsecond, -⟩ := t.valid
  refine ⟨rfl, rfl, ?_, ?_, ?_, t.toNat_microsOf⟩
  · exact UInt8.toNat_ofNat_of_lt' (by omega)
  · exact UInt8.toNat_ofNat_of_lt' (by omega)
  · exact UInt8.toNat_ofNat_of_lt' (by omega)

/-- Cells keep the order of times of day. -/
theorem Carries.tuple_le {s : TimeOfDay} {first : RawTime} (hs : first.Carries s)
    (ht : raw.Carries t) (h : s.NotAfter t) : LexLe first.tuple raw.tuple := by
  have hmicros : s.nano ≤ t.nano → first.micros.toNat ≤ raw.micros.toNat := by
    intro hnano
    rw [hs.micros, ht.micros]
    exact TimeOfDay.micros_le hnano
  rw [TimeOfDay.notAfter_iff, ← hs.hours, ← hs.minutes, ← hs.seconds, ← ht.hours, ← ht.minutes,
    ← ht.seconds] at h
  simp only [tuple, hs.positive, ht.positive, hs.days, ht.days, lexLe_cons, lexLe_nil,
    Nat.lt_irrefl, false_or, true_and, and_true]
  omega

end RawTime

/-! ## Temporal values -/

namespace Value

/-- A temporal value and the cell that it should have. -/
inductive BoundAs : Value → Cell → Prop where
  | date {d : Date} {raw : RawDate} (native : d.IsNative) (carries : raw.Carries ⟨d, .midnight⟩)
      (inRange : raw.InRange) (day : raw.date? = some d) : BoundAs (.date d) (.date raw)
  | dateTime {t : DateTime} {raw : RawDate} (native : t.date.IsNative) (carries : raw.Carries t)
      (inRange : raw.InRange) (day : raw.date? = some t.date) : BoundAs (.dateTime t) (.date raw)
  | time {t : TimeOfDay} {raw : RawTime} (carries : raw.Carries t) (inRange : raw.InRange) :
      BoundAs (.time t) (.time raw)
  | dateText {d : Date} (h : ¬ d.IsNative) : BoundAs (.date d) (.text (String.ofList d.text))
  | dateTimeText {t : DateTime} (h : ¬ t.date.IsNative) :
      BoundAs (.dateTime t) (.text (String.ofList t.text))

/-- Values of one kind, the first of which is not after the second. -/
inductive NotAfter : Value → Value → Prop where
  | date {d e : Date} (h : d.dayNumber ≤ e.dayNumber) : NotAfter (.date d) (.date e)
  | dateTime {s t : DateTime} (h : s.NotAfter t) : NotAfter (.dateTime s) (.dateTime t)
  | time {s t : TimeOfDay} (h : s.NotAfter t) : NotAfter (.time s) (.time t)

/-- The value has no year, or one that the protocol has a place for. -/
def IsNative : Value → Prop
  | .date d => d.IsNative
  | .dateTime t => t.date.IsNative
  | _ => True

end Value

/-- Cells of one kind, the fields of the first of which are not after those of the second. -/
inductive Cell.NotAfter : Cell → Cell → Prop where
  | date {first second : RawDate} (h : LexLe first.tuple second.tuple) :
      NotAfter (.date first) (.date second)
  | time {first second : RawTime} (h : LexLe first.tuple second.tuple) :
      NotAfter (.time first) (.time second)

namespace Value

/-- A native date is bound as a date without a time. -/
lemma toCell_date {d : Date} (h : d.IsNative) : ∃ raw,
    toCell (.date d) = .date raw ∧ raw.Carries ⟨d, .midnight⟩ ∧ raw.date? = some d := by
  obtain ⟨raw, hraw⟩ := RawDate.exists_toRaw? (t := ⟨d, .midnight⟩) h
  refine ⟨raw, ?_, RawDate.carries_of_toRaw? hraw, RawDate.date?_of_toRaw? hraw⟩
  simp only [toCell, d.toRaw?_eq, hraw]

/-- A native date with a time of day is bound with it. -/
lemma toCell_dateTime {t : DateTime} (h : t.date.IsNative) : ∃ raw,
    toCell (.dateTime t) = .date raw ∧ raw.Carries t ∧ raw.date? = some t.date := by
  obtain ⟨raw, hraw⟩ := RawDate.exists_toRaw? h
  refine ⟨raw, ?_, RawDate.carries_of_toRaw? hraw, RawDate.date?_of_toRaw? hraw⟩
  simp only [toCell, hraw]

lemma boundAs_date (d : Date) : BoundAs (.date d) (toCell (.date d)) := by
  by_cases h : d.IsNative
  · obtain ⟨raw, hcell, hcarries, hday⟩ := toCell_date h
    rw [hcell]
    exact .date h hcarries hcarries.inRange hday
  · have hraw : d.toRaw? = none := d.toRaw?_eq.trans (RawDate.toRaw?_eq_none h)
    simp only [toCell, hraw]
    exact .dateText h

lemma boundAs_dateTime (t : DateTime) : BoundAs (.dateTime t) (toCell (.dateTime t)) := by
  by_cases h : t.date.IsNative
  · obtain ⟨raw, hcell, hcarries, hday⟩ := toCell_dateTime h
    rw [hcell]
    exact .dateTime h hcarries hcarries.inRange hday
  · simp only [toCell, RawDate.toRaw?_eq_none h]
    exact .dateTimeText h

/-- Every temporal value is bound natively or as text. -/
lemma boundAs_toCell {v : Value} (h : v.isTemporal = true) : v.BoundAs v.toCell := by
  cases v with
  | date d => exact boundAs_date d
  | dateTime t => exact boundAs_dateTime t
  | time t => exact .time (RawTime.carries_toRaw t) (RawTime.carries_toRaw t).inRange
  | _ => contradiction

/-- Bound cells have the order of their values. -/
lemma notAfter_toCell {v w : Value} (h : v.NotAfter w) (hv : v.IsNative) (hw : w.IsNative) :
    v.toCell.NotAfter w.toCell := by
  cases h with
  | @date d e h =>
    obtain ⟨first, hfirst, hd, -⟩ := toCell_date hv
    obtain ⟨second, hsecond, he, -⟩ := toCell_date hw
    have horder : DateTime.NotAfter ⟨d, .midnight⟩ ⟨e, .midnight⟩ :=
      (Int.lt_or_eq_of_le h).imp_right fun heq => ⟨heq, .inr ⟨rfl, Nat.le_refl _⟩⟩
    rw [hfirst, hsecond]
    exact .date (hd.tuple_le he horder)
  | dateTime h =>
    obtain ⟨first, hfirst, hs, -⟩ := toCell_dateTime hv
    obtain ⟨second, hsecond, ht, -⟩ := toCell_dateTime hw
    rw [hfirst, hsecond]
    exact .date (hs.tuple_le ht h)
  | time h => exact .time ((RawTime.carries_toRaw _).tuple_le (RawTime.carries_toRaw _) h)

/-- **Temporal values bind as they are, and in their order.**  Where the protocol has a place for
the year, the cell has the value's own fields, each in its range, with whole microseconds, capped in
a leap second; and what is not after another value has a cell that is not after its cell, field by
field.  For any other year the cell is the text. -/
theorem toCell_temporal {v : Value} (h : v.isTemporal = true) :
    v.BoundAs v.toCell ∧
      ∀ w : Value, v.NotAfter w → v.IsNative → w.IsNative → v.toCell.NotAfter w.toCell :=
  ⟨boundAs_toCell h, fun _ horder hv hw => notAfter_toCell horder hv hw⟩

/-- A leap second at the end of a year, before the first second of the next one, and a leap second
within a minute. -/
theorem toCell_temporal_leapSecond :
    (dateTime ⟨⟨2016, 12, 31, by decide⟩, ⟨23, 59, 59, 1500000000, by decide⟩⟩).BoundAs
        (.date ⟨2016, 12, 31, 23, 59, 59, 999999⟩) ∧
      (Cell.date ⟨2016, 12, 31, 23, 59, 59, 999999⟩).NotAfter
        (.date ⟨2017, 1, 1, 0, 0, 0, 0⟩) ∧
      (time ⟨23, 56, 4, 1500000000, by decide⟩).BoundAs (.time ⟨false, 0, 23, 56, 4, 999999⟩) := by
  obtain ⟨hbound, horder⟩ := toCell_temporal
    (v := dateTime ⟨⟨2016, 12, 31, by decide⟩, ⟨23, 59, 59, 1500000000, by decide⟩⟩) rfl
  have hnext := horder (dateTime ⟨⟨2017, 1, 1, by decide⟩, .midnight⟩)
    (.dateTime (.inl (by decide)))
    (show Date.IsNative _ by decide) (show Date.IsNative _ by decide)
  obtain ⟨hwithin, -⟩ := toCell_temporal (v := time ⟨23, 56, 4, 1500000000, by decide⟩) rfl
  have hcell : toCell (time ⟨23, 56, 4, 1500000000, by decide⟩) =
      .time ⟨false, 0, 23, 56, 4, 999999⟩ := by decide
  rw [hcell] at hwithin
  exact ⟨hbound, hnext, hwithin⟩

end Value

end TableGateway
