import Mathlib.Tactic.Lemma
import TableGateway.Cell.Read
import TableGateway.Cell.Write

/-!
# Binding what was read

A bound value that is read back as a cell binds as the same cell again, although the value that was
read need not be the one that was bound: a boolean comes back as an integer, a list as its JSON
text, and a time with its fraction cut to microseconds.

* `Value.plain` — the canonical form at the end of a chain of custom values.  It binds as the value
  does.
* `TimeOfDay.cut` — what is left of a time in a cell.
* `RawDate.date?_of_toRaw?`, `RawDate.time?_of_toRaw?`, `RawTime.timeOfDay?_toRaw` — temporal cells
  read back.
* **`Value.toCell_toValue_toCell`** — a value and what is read back for it bind alike, but for a
  date with a time in a column of dates.
-/

namespace TableGateway

/-! ## Text -/

/-- Bytes that are read bind as they were, whether or not they are text. -/
lemma Cell.toCell_bytesToValue (bytes : List UInt8) :
    (bytesToValue bytes).toCell = .bytes bytes := by
  rw [bytesToValue]
  split
  · rename_i s hs
    rw [Value.toCell, Cell.text, Text.Utf8.encode_of_decode? hs]
  · rfl

/-- A text that is read binds as it was. -/
lemma Cell.toCell_text {type : ColumnType} (s : String) :
    (toValue type (.text s)).toCell = .text s :=
  toCell_bytesToValue _

/-! ## Dates and times -/

/-- A date is found by its own fields. -/
lemma Date.ofYmd?_self (d : Date) : ofYmd? d.year d.month d.day = some d :=
  dif_pos d.valid

/-- A time without a leap second is made from its fields. -/
lemma TimeOfDay.ofHms?_self {t : TimeOfDay} (h : t.nano < 1000000000) :
    ofHms? t.hour t.minute t.second t.nano = some t :=
  dif_pos ⟨t.valid, fun hleap => absurd hleap (Nat.not_le_of_lt h)⟩

/-- No month has more than 31 days. -/
lemma daysInMonth_le (year : Int) (month : Nat) : daysInMonth year month ≤ 31 := by
  rw [daysInMonth]
  split
  · split
    · decide
    · decide
  · split
    · decide
    · decide

namespace RawDate

/-- A year that the protocol can hold is the number it holds. -/
lemma toNat_of_year? {year : Int} {raw : UInt16} (h : year? year = some raw) :
    (raw.toNat : Int) = year := by
  rw [year?, Option.ite_none_right_eq_some] at h
  obtain ⟨⟨hlow, hhigh⟩, h⟩ := h
  obtain rfl := Option.some.inj h
  have hsize : year.toNat < UInt16.size := by
    have hle : year.toNat ≤ 9999 := Int.toNat_le.mpr hhigh
    exact Nat.lt_of_le_of_lt hle (by decide)
  rw [UInt16.toNat_ofNat_of_lt' hsize]
  exact Int.toNat_of_nonneg hlow

/-- Microseconds are cut off, and a leap second counts as the last of them. -/
lemma toNat_microsOf (nano : Nat) : (microsOf nano).toNat = min (nano / 1000) 999999 := by
  have hsize : min (nano / 1000) 999999 < UInt32.size :=
    Nat.lt_of_le_of_lt (Nat.min_le_right _ _) (by decide)
  rw [microsOf, UInt32.toNat_ofNat_of_lt' hsize]

end RawDate

namespace TimeOfDay

/-- The first second of a day. -/
def midnight : TimeOfDay := ⟨0, 0, 0, 0, by decide⟩

/-- The time with its fraction cut to microseconds, and to the last of them in a leap second. -/
def cut (t : TimeOfDay) : TimeOfDay where
  hour := t.hour
  minute := t.minute
  second := t.second
  nano := min (t.nano / 1000) 999999 * 1000
  valid := by
    have hvalid := t.valid
    omega

/-- What is cut to microseconds is no leap second. -/
lemma nano_cut_lt (t : TimeOfDay) : t.cut.nano < 1000000000 := by
  change min (t.nano / 1000) 999999 * 1000 < 1000000000
  omega

lemma cut_midnight : midnight.cut = midnight := by
  decide

variable (t : TimeOfDay)

/-- Cutting a fraction once more leaves it as it is. -/
lemma microsOf_cut : RawDate.microsOf t.cut.nano = RawDate.microsOf t.nano := by
  have hmin : min (t.cut.nano / 1000) 999999 = min (t.nano / 1000) 999999 := by
    rw [cut, Nat.mul_div_cancel _ (by decide : 0 < 1000)]
    exact Nat.min_eq_left (Nat.min_le_right _ _)
  rw [RawDate.microsOf, hmin, RawDate.microsOf]

/-- The fields of a time in a cell are those of what is left of the time. -/
lemma ofHms?_fields :
    ofHms? (UInt8.ofNat t.hour).toNat (UInt8.ofNat t.minute).toNat (UInt8.ofNat t.second).toNat
      ((RawDate.microsOf t.nano).toNat * 1000) = some t.cut := by
  have hsize : UInt8.size = 256 := rfl
  obtain ⟨hhour, hminute, hsecond, -⟩ := t.valid
  rw [UInt8.toNat_ofNat_of_lt' (by omega), UInt8.toNat_ofNat_of_lt' (by omega),
    UInt8.toNat_ofNat_of_lt' (by omega), RawDate.toNat_microsOf]
  exact ofHms?_self t.nano_cut_lt

end TimeOfDay

/-- A date binds as its first second. -/
lemma Date.toRaw?_eq (d : Date) : d.toRaw? = DateTime.toRaw? ⟨d, .midnight⟩ := by
  have hmicros : RawDate.microsOf TimeOfDay.midnight.nano = 0 := by decide
  rw [toRaw?, DateTime.toRaw?, hmicros]
  rfl

/-- What the protocol holds of a date and time does not change when the time is cut first. -/
lemma DateTime.toRaw?_cut (d : Date) (t : TimeOfDay) :
    DateTime.toRaw? ⟨d, t.cut⟩ = DateTime.toRaw? ⟨d, t⟩ := by
  rw [toRaw?, toRaw?, TimeOfDay.microsOf_cut]
  rfl

lemma TimeOfDay.toRaw_cut (t : TimeOfDay) : t.cut.toRaw = t.toRaw := by
  rw [toRaw, toRaw, microsOf_cut]
  rfl

section

variable {t : DateTime} {raw : RawDate}

/-- The day of a date in a cell is the one that was bound. -/
theorem RawDate.date?_of_toRaw? (h : t.toRaw? = some raw) : raw.date? = some t.date := by
  have hsize : UInt8.size = 256 := rfl
  obtain ⟨year, hyear, rfl⟩ := Option.map_eq_some_iff.mp h
  obtain ⟨-, hmonth, -, hday⟩ := t.date.valid
  have hdays := daysInMonth_le t.date.year t.date.month
  rw [date?, toNat_of_year? hyear, UInt8.toNat_ofNat_of_lt' (by omega),
    UInt8.toNat_ofNat_of_lt' (by omega)]
  exact t.date.ofYmd?_self

/-- The time of day of a date in a cell is what is left of the one that was bound. -/
theorem RawDate.time?_of_toRaw? (h : t.toRaw? = some raw) : raw.time? = some t.time.cut := by
  obtain ⟨year, -, rfl⟩ := Option.map_eq_some_iff.mp h
  exact t.time.ofHms?_fields

end

/-- The time of day of a time in a cell is what is left of the one that was bound. -/
theorem RawTime.timeOfDay?_toRaw (t : TimeOfDay) : t.toRaw.timeOfDay? = some t.cut := by
  rw [timeOfDay?, if_pos ⟨rfl, rfl⟩]
  exact t.ofHms?_fields

/-! ## Cells -/

section

variable {raw : RawDate} {type : ColumnType}

/-- A cell with a date is bound again as it was read. -/
lemma Cell.toCell_date {d : Date} (h : d.toRaw? = some raw) :
    (toValue type (.date raw)).toCell = .date raw := by
  have hmidnight : DateTime.toRaw? ⟨d, .midnight⟩ = some raw := d.toRaw?_eq.symm.trans h
  have hdate : raw.date? = some d := RawDate.date?_of_toRaw? hmidnight
  have htime : raw.time? = some .midnight := by
    rw [RawDate.time?_of_toRaw? hmidnight, TimeOfDay.cut_midnight]
  cases hdates : type.isDate with
  | true => simp [toValue, RawDate.toValue, hdate, hdates, Value.toCell, h]
  | false => simp [toValue, RawDate.toValue, hdate, htime, hdates, Value.toCell, hmidnight]

lemma Cell.toCell_dateTime {t : DateTime} (htype : type.isDate = false)
    (h : t.toRaw? = some raw) : (toValue type (.date raw)).toCell = .date raw := by
  have hcut : DateTime.toRaw? ⟨t.date, t.time.cut⟩ = some raw := (DateTime.toRaw?_cut _ _).trans h
  simp [toValue, RawDate.toValue, RawDate.date?_of_toRaw? h, RawDate.time?_of_toRaw? h, htype,
    Value.toCell, hcut]

lemma Cell.toCell_time (t : TimeOfDay) :
    (toValue type (.time t.toRaw)).toCell = .time t.toRaw := by
  rw [toValue, RawTime.toValue, RawTime.timeOfDay?_toRaw]
  simp [Value.toCell, TimeOfDay.toRaw_cut]

end

/-! ## Values -/

namespace Value

/-- The canonical form at the end of a chain of custom values. -/
def plain : Value → Value
  | .custom canonical => plain canonical
  | v => v

/-- A value behind custom ones is bound like them. -/
lemma toCell_plain : ∀ v : Value, v.plain.toCell = v.toCell
  | .custom canonical => toCell_plain canonical
  | .null | .bool _ | .int _ | .uint _ | .float _ | .string _ | .bytes _ | .date _ | .dateTime _
  | .time _ | .array _ | .object _ => rfl

/-- Behind custom values there is one that is not custom. -/
lemma plain_ne_custom (canonical : Value) : ∀ v : Value, v.plain ≠ .custom canonical
  | .custom c => plain_ne_custom canonical c
  | .null | .bool _ | .int _ | .uint _ | .float _ | .string _ | .bytes _ | .date _ | .dateTime _
  | .time _ | .array _ | .object _ => by simp [plain]

/-- **Binding is stable under reading back.**  What is read back for a bound value binds as the same
cell, in a column of any type; only a date with a time must not come from a column of dates, which
has no place for the time. -/
theorem toCell_toValue_toCell (v : Value) (type : ColumnType)
    (h : ∀ t, v.plain = .dateTime t → type.isDate = false) :
    (v.toCell.toValue type).toCell = v.toCell := by
  rw [← toCell_plain v]
  cases hplain : v.plain with
  | null | bool _ | int _ | uint _ | float _ => rfl
  | bytes b => exact Cell.toCell_bytesToValue b
  | string _ | array _ | object _ => exact Cell.toCell_text _
  | date d =>
    cases hraw : d.toRaw? with
    | none =>
      simp only [toCell, hraw]
      exact Cell.toCell_text _
    | some raw =>
      simp only [toCell, hraw]
      exact Cell.toCell_date hraw
  | dateTime t =>
    cases hraw : t.toRaw? with
    | none =>
      simp only [toCell, hraw]
      exact Cell.toCell_text _
    | some raw =>
      simp only [toCell, hraw]
      exact Cell.toCell_dateTime (h t hplain) hraw
  | time t => exact Cell.toCell_time t
  | custom canonical => exact absurd hplain (plain_ne_custom canonical v)

/-- A custom value that stands for the end of a leap second within a minute, which a cell does not
reach. -/
theorem toCell_toValue_toCell_leapSecond :
    ((custom (.dateTime ⟨⟨2016, 12, 31, by decide⟩,
      ⟨23, 56, 4, 1999999999, by decide⟩⟩)).toCell.toValue .other).toCell =
        .date ⟨2016, 12, 31, 23, 56, 4, 999999⟩ :=
  (toCell_toValue_toCell _ .other fun _ _ => rfl).trans (by decide)

/-- A column of dates loses the time. -/
example : ((dateTime ⟨⟨2024, 2, 29, by decide⟩, ⟨12, 0, 0, 0, by decide⟩⟩).toCell.toValue
    .newDate).toCell = .date ⟨2024, 2, 29, 0, 0, 0, 0⟩ := by
  decide

end Value

end TableGateway
