import TableGateway.Proofs.Cell.Temporal
import TableGateway.Proofs.Text

/-!
# What is read of temporal cells

A cell of a date with a time is read as the date with the time where the calendar has the day, and
all its fields can be told from that.  Where the calendar does not have the day, the cell is read as
the text of the day, and the time is lost.

* `RawDate.text_inj` — the text of a day tells its year, month and day.
* `RawDate.Carries.unique` — a date with a time tells all fields of its cell.
* `RawDate.Read` — the two ways in which a cell is read; `RawDate.read_toValue` says that there are
  no others where the fields are in their ranges.
* **`Cell.same_toValue_date`** — which cells are read as equal values; `Cell.same_toValue_partialDay`
  are two that differ.
-/

namespace TableGateway

namespace RawDate

variable {a b raw : RawDate} {t : DateTime}

/-- Cells with the same year, month and day. -/
def SameDay (a b : RawDate) : Prop :=
  a.year = b.year ∧ a.month = b.month ∧ a.day = b.day

/-- The text of a date is that of its day. -/
lemma SameDay.text_eq (h : a.SameDay b) : a.text = b.text := by
  obtain ⟨hyear, hmonth, hday⟩ := h
  rw [text, text, hyear, hmonth, hday]

lemma SameDay.date?_eq (h : a.SameDay b) : a.date? = b.date? := by
  obtain ⟨hyear, hmonth, hday⟩ := h
  rw [date?, date?, hyear, hmonth, hday]

/-- The text of a day tells its year, month and day, of however many digits they are. -/
theorem text_inj : a.text = b.text ↔ a.SameDay b := by
  refine ⟨fun h => ?_, SameDay.text_eq⟩
  have hmark {width n : Nat} : '-' ∉ Text.padded width n := Text.notMem_padded rfl
  simp only [text, List.append_assoc, List.cons_append] at h
  obtain ⟨hyear, hrest⟩ := (Text.append_cons_inj hmark hmark).mp h
  obtain ⟨hmonth, hday⟩ := (Text.append_cons_inj hmark hmark).mp hrest
  rw [Text.padded_inj] at hyear hmonth hday
  exact ⟨UInt16.toNat_inj.mp hyear, UInt8.toNat_inj.mp hmonth, UInt8.toNat_inj.mp hday⟩

/-- A date with a time tells all fields of a cell that carries it. -/
theorem Carries.unique (ha : a.Carries t) (hb : b.Carries t) : a = b := by
  rw [RawDate.mk.injEq]
  refine ⟨?_, ?_, ?_, ?_, ?_, ?_, ?_⟩
  · have hyear := ha.year.trans hb.year.symm
    exact UInt16.toNat_inj.mp (by omega)
  · exact UInt8.toNat_inj.mp (ha.month.trans hb.month.symm)
  · exact UInt8.toNat_inj.mp (ha.day.trans hb.day.symm)
  · exact UInt8.toNat_inj.mp (ha.hour.trans hb.hour.symm)
  · exact UInt8.toNat_inj.mp (ha.minute.trans hb.minute.symm)
  · exact UInt8.toNat_inj.mp (ha.second.trans hb.second.symm)
  · exact UInt32.toNat_inj.mp (ha.micros.trans hb.micros.symm)

/-- What a cell is read as: a date with a time that it carries, or the text of a day that the
calendar does not have. -/
inductive Read (raw : RawDate) : Value → Prop where
  | dateTime {t : DateTime} (day : raw.date? = some t.date) (carries : raw.Carries t) :
      Read raw (.dateTime t)
  | text (day : raw.date? = none) : Read raw (.string (String.ofList raw.text))

/-- A time of day with fields in their ranges is read with all of them. -/
lemma exists_time? (h : raw.InRange) : ∃ time, raw.time? = some time ∧
    raw.hour.toNat = time.hour ∧ raw.minute.toNat = time.minute ∧
    raw.second.toNat = time.second ∧ raw.micros.toNat = time.micros := by
  have hmicros := h.micros
  have hnano : raw.micros.toNat * 1000 < 1000000000 := by omega
  let time : TimeOfDay := ⟨raw.hour.toNat, raw.minute.toNat, raw.second.toNat,
    raw.micros.toNat * 1000, h.hour, h.minute, h.second, by omega⟩
  refine ⟨time, TimeOfDay.ofHms?_self (t := time) hnano, rfl, rfl, rfl, ?_⟩
  rw [TimeOfDay.micros, if_pos hnano, Nat.mul_div_cancel _ (by decide)]

/-- A date that there is has the fields it is read from. -/
lemma date?_eq_some {d : Date} (h : raw.date? = some d) :
    (raw.year.toNat : Int) = d.year ∧ raw.month.toNat = d.month ∧ raw.day.toNat = d.day := by
  rw [date?, Date.ofYmd?, Option.dite_none_right_eq_some] at h
  obtain ⟨_, h⟩ := h
  obtain rfl := Option.some.inj h
  exact ⟨rfl, rfl, rfl⟩

/-- A date in range is read as its column says. -/
theorem read_toValue {type : ColumnType} (htype : type.isDate = false) (h : raw.InRange) :
    raw.Read (raw.toValue type) := by
  rw [toValue]
  cases hdate : raw.date? with
  | none => exact .text hdate
  | some d =>
    obtain ⟨hyear, hmonth, hday⟩ := date?_eq_some hdate
    obtain ⟨time, htime, hhour, hminute, hsecond, hmicros⟩ := exists_time? h
    simp only [htype, htime]
    exact .dateTime hdate ⟨hyear, hmonth, hday, hhour, hminute, hsecond, hmicros⟩

/-- What is read is the same as itself. -/
lemma Read.same_self {v : Value} (h : raw.Read v) : v.same v = true := by
  cases h with
  | dateTime _ _ => simp [Value.same]
  | text _ => simp [Value.same]

/-- Equal values are of one cell, or of days that the calendar does not have. -/
lemma Read.eq_or_sameDay {v w : Value} (ha : a.Read v) (hb : b.Read w) (h : v.same w = true) :
    a = b ∨ a.date? = none ∧ a.SameDay b := by
  cases ha with
  | dateTime _ ha =>
    cases hb with
    | dateTime _ hb =>
      simp only [Value.same, decide_eq_true_eq] at h
      subst h
      exact .inl (ha.unique hb)
    | text _ => simp [Value.same] at h
  | text hnone =>
    cases hb with
    | dateTime _ _ => simp [Value.same] at h
    | text _ =>
      simp only [Value.same, beq_iff_eq, String.ofList_inj] at h
      exact .inr ⟨hnone, text_inj.mp h⟩

end RawDate

/-- **A cell of a date with a time is read without loss just where the calendar has the day.**  In a
column that is not of dates, two cells with fields in their ranges are read as equal values if they
are one cell, and else only if they are of one day which the calendar does not have: of such a cell
the text of the day is read, whatever its time is. -/
theorem Cell.same_toValue_date {type : ColumnType} {a b : RawDate} (htype : type.isDate = false)
    (ha : a.InRange) (hb : b.InRange) :
    ((Cell.date a).toValue type).same ((Cell.date b).toValue type) = true ↔
      a = b ∨ a.date? = none ∧ a.SameDay b := by
  have hread : a.Read ((Cell.date a).toValue type) := RawDate.read_toValue htype ha
  constructor
  · exact hread.eq_or_sameDay (RawDate.read_toValue htype hb)
  · rintro (rfl | ⟨hnone, hday⟩)
    · exact hread.same_self
    · have hvalue : (Cell.date b).toValue type = (Cell.date a).toValue type := by
        simp only [toValue, RawDate.toValue, hnone, ← hday.date?_eq, hday.text_eq]
      rw [hvalue]
      exact hread.same_self

/-- The first and the last microsecond of a second, on a day that only leap years have. -/
theorem Cell.same_toValue_date_leapDay :
    ¬ ((Cell.date ⟨2024, 2, 29, 23, 59, 59, 999999⟩).toValue .other).same
        ((Cell.date ⟨2024, 2, 29, 23, 59, 59, 0⟩).toValue .other) = true := by
  have hother : ColumnType.other.isDate = false := rfl
  have hlast : RawDate.InRange ⟨2024, 2, 29, 23, 59, 59, 999999⟩ := by decide
  have hfirst : RawDate.InRange ⟨2024, 2, 29, 23, 59, 59, 0⟩ := by decide
  rw [Cell.same_toValue_date hother hlast hfirst]
  rintro (heq | ⟨hnone, -⟩)
  · exact absurd heq (by decide)
  · exact absurd hnone (by decide)

/-- Two times of a day without a month. -/
theorem Cell.same_toValue_partialDay :
    RawDate.InRange ⟨2020, 0, 15, 10, 20, 30, 0⟩ ∧ RawDate.InRange ⟨2020, 0, 15, 0, 0, 0, 0⟩ ∧
      ((Cell.date ⟨2020, 0, 15, 10, 20, 30, 0⟩).toValue .other).same
        ((Cell.date ⟨2020, 0, 15, 0, 0, 0, 0⟩).toValue .other) = true ∧
      (⟨2020, 0, 15, 10, 20, 30, 0⟩ : RawDate) ≠ ⟨2020, 0, 15, 0, 0, 0, 0⟩ := by
  decide

end TableGateway
