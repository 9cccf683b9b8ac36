import TableGateway.Proofs.Cell.Temporal
import TableGateway.Proofs.Sql.Like
import TableGateway.Proofs.Text

/-!
# LIKE on temporal values

The operand of a LIKE on a temporal value is the text of the value, with all digits of its fraction
and with a leap second as the second after it.  A cell keeps microseconds and knows no leap second.
So a LIKE on a value finds the cell that the value binds as just where the cell has lost nothing of
it.

* `RawDate.shown`, `RawTime.shown`, `Cell.shown?` — the text of a cell as the engine shows it.
* `TimeOfDay.secondText_prefix_iff` — the seconds of the operand begin those that are shown just
  where cutting the time leaves it as it is.
* `Value.IsKept` — a value of which its cell loses nothing.
* **`Like.holds_temporal`** — just when a LIKE on a temporal value finds it;
  `Like.holds_temporal_nanosecond` are two values that it does not find.
-/

namespace TableGateway

/-! ## What the engine shows -/

/-- Hours, minutes and seconds with six digits of a fraction. -/
def clockText (hour minute second micros : Nat) : List Char :=
  Text.padded 2 hour ++ ':' :: Text.padded 2 minute ++
    ':' :: Text.padded 2 second ++ '.' :: Text.padded 6 micros

/-- A date with a time in a column that keeps microseconds. -/
def RawDate.shown (raw : RawDate) : List Char :=
  raw.text ++ ' ' :: clockText raw.hour.toNat raw.minute.toNat raw.second.toNat raw.micros.toNat

/-- A time in a column that keeps microseconds. -/
def RawTime.shown (raw : RawTime) : List Char :=
  (if raw.negative then ['-'] else []) ++ clockText (raw.days.toNat * 24 + raw.hours.toNat)
    raw.minutes.toNat raw.seconds.toNat raw.micros.toNat

/-- The text that the engine shows for a temporal cell, or for a text, in a column of a type that
keeps microseconds. -/
def Cell.shown? (type : ColumnType) : Cell → Option String
  | .date raw => some (String.ofList (if type.isDate then raw.text else raw.shown))
  | .time raw => some (String.ofList raw.shown)
  | .bytes b => Text.Utf8.decode? b
  | .null | .int _ | .uint _ | .float _ | .double _ => none

/-! ## Seconds -/

namespace TimeOfDay

/-- The second and the fraction in the text of a time. -/
def secondText (t : TimeOfDay) : List Char :=
  Text.padded 2 (t.second + t.nano / 1000000000) ++ fractionText (t.nano % 1000000000)

/-- The second and the fraction that are shown for the cell of a time. -/
def shownSecond (t : TimeOfDay) : List Char :=
  Text.padded 2 t.second ++ '.' :: Text.padded 6 t.micros

/-- Nothing of a time is lost if it has whole microseconds and is not in a leap second. -/
lemma cut_eq_iff {t : TimeOfDay} : t.cut = t ↔ t.nano < 1000000000 ∧ t.nano % 1000 = 0 := by
  have hnano : t.cut = t ↔ min (t.nano / 1000) 999999 * 1000 = t.nano := by
    constructor
    · intro h
      exact congrArg nano h
    · intro h
      obtain ⟨_, _, _, _, _⟩ := t
      simp only [cut, TimeOfDay.mk.injEq, true_and]
      exact h
  rw [hnano]
  omega

/-- The digits of a fraction begin the six that are shown if they are whole microseconds. -/
lemma fractionText_prefix_iff {nano : Nat} (h : nano < 1000000000) :
    fractionText nano <+: '.' :: Text.padded 6 (nano / 1000) ↔ nano % 1000 = 0 := by
  rw [fractionText]
  split
  · rename_i hzero
    simp [hzero]
  · split
    · rename_i hmilli
      -- three digits, and as many zeros in what is shown
      have hmicros : nano / 1000 = nano / 1000000 * 10 * 10 * 10 := by omega
      have hdigits : Text.padded 6 (nano / 1000) =
          Text.padded 3 (nano / 1000000) ++ ['0', '0', '0'] := by
        rw [hmicros]
        simp [Text.padded_mul_ten]
      rw [hdigits, List.cons_prefix_cons]
      simp only [List.prefix_append, and_self, true_iff]
      omega
    · split
      · rename_i hmicro
        simp [hmicro]
      · rename_i hnano
        have hlong : (Text.padded 9 nano).length = 9 := Text.length_padded (by decide) (by omega)
        have hshort : (Text.padded 6 (nano / 1000)).length = 6 :=
          Text.length_padded (by decide) (by omega)
        simp only [hnano, iff_false, List.cons_prefix_cons, true_and]
        intro hprefix
        have hlength := hprefix.length_le
        omega

/-- The seconds of a text begin those that are shown just where the cell has all of the time. -/
theorem secondText_prefix_iff {t : TimeOfDay} : t.secondText <+: t.shownSecond ↔ t.cut = t := by
  rw [cut_eq_iff, secondText, shownSecond, micros]
  by_cases hleap : t.nano < 1000000000
  · have hsecond : t.second + t.nano / 1000000000 = t.second := by omega
    rw [if_pos hleap, hsecond, Nat.mod_eq_of_lt hleap, List.prefix_append_right_inj,
      fractionText_prefix_iff hleap]
    simp [hleap]
  · -- two digits say the next second in the text and the second itself in what is shown
    obtain ⟨-, -, hsecond, hnano⟩ := t.valid
    have hquot : t.nano / 1000000000 = 1 := by omega
    have hnext : (Text.padded 2 (t.second + 1)).length = 2 :=
      Text.length_padded (by decide) (by omega)
    have hsame : (Text.padded 2 t.second).length = 2 := Text.length_padded (by decide) (by omega)
    rw [hquot]
    simp only [hleap, false_and, iff_false]
    intro hprefix
    have hdigits : Text.padded 2 (t.second + 1) <+: Text.padded 2 t.second :=
      List.prefix_of_prefix_length_le ((List.prefix_append _ _).trans hprefix)
        (List.prefix_append _ _) (by rw [hnext, hsame])
    have hequal := Text.padded_inj.mp (hdigits.eq_of_length (by rw [hnext, hsame]))
    omega

/-- What stands before the seconds in the text of a time. -/
def minuteText (t : TimeOfDay) : List Char :=
  Text.padded 2 t.hour ++ ':' :: Text.padded 2 t.minute

/-- After the same text, a time is found in what is shown for its cell just where the cell has all
of the time. -/
lemma text_infix_iff {t : TimeOfDay} (before : List Char) :
    before ++ t.text <:+: before ++ clockText t.hour t.minute t.second t.micros ↔ t.cut = t := by
  have htext : before ++ t.text = (before ++ t.minuteText) ++ ':' :: t.secondText := by
    simp [text, minuteText, secondText]
  have hshown : before ++ clockText t.hour t.minute t.second t.micros =
      (before ++ t.minuteText) ++ ':' :: t.shownSecond := by
    simp [clockText, minuteText, shownSecond]
  have hcolon : ':' ∉ t.shownSecond := by
    simp [shownSecond, Text.notMem_padded]
  rw [htext, hshown, Text.infix_iff_prefix hcolon, secondText_prefix_iff]

end TimeOfDay

/-! ## Texts without marks of patterns -/

/-- The characters of temporal texts. -/
def isTemporalChar (c : Char) : Bool :=
  c.isDigit || ['-', '+', ':', '.', ' '].contains c

/-- No character of a temporal text is a wildcard or an escape. -/
lemma ne_mark_of_isTemporalChar {c : Char} (h : isTemporalChar c = true) :
    c ≠ '%' ∧ c ≠ '_' ∧ c ≠ '\\' := by
  refine ⟨?_, ?_, ?_⟩
  · rintro rfl
    exact absurd h (by decide)
  · rintro rfl
    exact absurd h (by decide)
  · rintro rfl
    exact absurd h (by decide)

/-- A padded number is temporal text. -/
lemma all_padded (width n : Nat) : (Text.padded width n).all isTemporalChar = true := by
  rw [List.all_eq_true]
  intro c hc
  rw [isTemporalChar, Text.isDigit_of_mem_padded hc, Bool.true_or]

lemma Date.all_text (d : Date) : d.text.all isTemporalChar = true := by
  have hminus : isTemporalChar '-' = true := by decide
  have hplus : isTemporalChar '+' = true := by decide
  have hyear : (yearText d.year).all isTemporalChar = true := by
    rw [yearText]
    split
    · exact all_padded 4 _
    · split
      · simp [all_padded, hminus, -List.all_eq_true]
      · simp [all_padded, hplus, -List.all_eq_true]
  simp [text, hyear, all_padded, hminus, -List.all_eq_true]

lemma TimeOfDay.all_text (t : TimeOfDay) : t.text.all isTemporalChar = true := by
  have hcolon : isTemporalChar ':' = true := by decide
  have hpoint : isTemporalChar '.' = true := by decide
  have hfraction (nano : Nat) : (fractionText nano).all isTemporalChar = true := by
    rw [fractionText]
    split
    · rfl
    · split
      · simp [all_padded, hpoint, -List.all_eq_true]
      · split
        · simp [all_padded, hpoint, -List.all_eq_true]
        · simp [all_padded, hpoint, -List.all_eq_true]
  simp [text, hfraction, all_padded, hcolon, -List.all_eq_true]

lemma DateTime.all_text (t : DateTime) : t.text.all isTemporalChar = true := by
  have hblank : isTemporalChar ' ' = true := by decide
  simp [text, textWith, t.date.all_text, t.time.all_text, hblank, -List.all_eq_true]

/-! ## Temporal values -/

namespace RawDate.Carries

variable {raw : RawDate} {t : DateTime}

/-- The day of a cell is shown as the text of the date that it carries. -/
lemma text_eq (h : raw.Carries t) (hnative : t.date.IsNative) : raw.text = t.date.text := by
  have hyear : t.date.year.natAbs = raw.year.toNat := by
    rw [← h.year]
    exact Int.natAbs_natCast _
  have htext : Date.yearText t.date.year = Text.padded 4 t.date.year.natAbs := if_pos hnative
  rw [RawDate.text, Date.text, htext, hyear, h.month, h.day]

/-- A native date and time is shown with all its microseconds. -/
lemma shown_eq (h : raw.Carries t) (hnative : t.date.IsNative) :
    raw.shown = (t.date.text ++ [' ']) ++
      clockText t.time.hour t.time.minute t.time.second t.time.micros := by
  rw [RawDate.shown, h.text_eq hnative, h.hour, h.minute, h.second, h.micros]
  simp

end RawDate.Carries

/-- A time of day is shown with all its microseconds. -/
lemma RawTime.Carries.shown_eq {raw : RawTime} {t : TimeOfDay} (h : raw.Carries t) :
    raw.shown = clockText t.hour t.minute t.second t.micros := by
  rw [RawTime.shown, h.positive, h.days, h.hours, h.minutes, h.seconds, h.micros]
  simp

namespace Value

/-- The type of a column for temporal values of one kind. -/
def columnType : Value → ColumnType
  | .date _ => .date
  | _ => .other

/-- Nothing of a temporal value is lost in its cell. -/
def IsKept : Value → Prop
  | .dateTime t => t.date.IsNative → t.time.cut = t.time
  | .time t => t.cut = t
  | _ => True

lemma shown?_text (type : ColumnType) (s : String) : (Cell.text s).shown? type = some s :=
  Text.Utf8.decode?_encode s

/-- The text of a temporal value is found in what is shown for the cell that it should have just
where the cell has all of it. -/
lemma BoundAs.exists_shown {v : Value} {cell : Cell} (h : v.BoundAs cell) :
    ∃ shown, cell.shown? v.columnType = some shown ∧
      (v.likeText.toList <:+: shown.toList ↔ v.IsKept) := by
  cases h with
  | date native carries _ _ =>
    refine ⟨_, rfl, ?_⟩
    simp [likeText, columnType, ColumnType.isDate, IsKept, carries.text_eq native]
  | @dateTime t _ native carries _ _ =>
    have htext : t.text = (t.date.text ++ [' ']) ++ t.time.text := by
      simp [DateTime.text, DateTime.textWith]
    refine ⟨_, rfl, ?_⟩
    simp only [likeText, columnType, ColumnType.isDate, String.toList_ofList, Bool.false_eq_true,
      if_false, htext, carries.shown_eq native, TimeOfDay.text_infix_iff, IsKept, native,
      forall_const]
  | @time t _ carries _ =>
    have hinfix := TimeOfDay.text_infix_iff (t := t) []
    rw [List.nil_append, List.nil_append] at hinfix
    refine ⟨_, rfl, ?_⟩
    simp only [likeText, String.toList_ofList, carries.shown_eq, hinfix, IsKept]
  | dateText _ =>
    refine ⟨_, shown?_text _ _, ?_⟩
    simp [likeText, IsKept]
  | dateTimeText h =>
    refine ⟨_, shown?_text _ _, ?_⟩
    simp [likeText, IsKept, h]

/-- The operand of a temporal value is temporal text. -/
lemma all_likeText {v : Value} (h : v.isTemporal = true) :
    v.likeText.toList.all isTemporalChar = true := by
  cases v with
  | date d => simp only [likeText, String.toList_ofList, d.all_text]
  | dateTime t => simp only [likeText, String.toList_ofList, t.all_text]
  | time t => simp only [likeText, String.toList_ofList, t.all_text]
  | _ => contradiction

end Value

/-- **A LIKE on a temporal value finds it just where its cell has all of it.**  The operand is put
between two wildcards, and has no mark of patterns; it is part of what the engine shows for the
bound value where the year makes that a text, and else if the time has whole microseconds and is in
no leap second. -/
theorem Like.holds_temporal {v : Value} (h : v.isTemporal = true) :
    ∃ operand shown : String, v.likePattern = .string ("%" ++ operand ++ "%") ∧
      v.toCell.shown? v.columnType = some shown ∧
      (operand.toList <:+: shown.toList ↔ v.IsKept) ∧
      (Holds shown ("%" ++ operand ++ "%") ↔ v.IsKept) := by
  obtain ⟨shown, hshown, hinfix⟩ := (Value.boundAs_toCell h).exists_shown
  have hplain : ∀ c ∈ v.likeText.toList, c ≠ '%' ∧ c ≠ '_' ∧ c ≠ '\\' := by
    intro c hc
    exact ne_mark_of_isTemporalChar (List.all_eq_true.mp (Value.all_likeText h) c hc)
  exact ⟨v.likeText, shown, rfl, hshown, hinfix, (holds_plain hplain).trans hinfix⟩

/-- The last millisecond of a day, whose three digits are the first of the six that are shown. -/
theorem Like.holds_temporal_millisecond :
    (Value.time ⟨23, 59, 59, 999000000, by decide⟩).isTemporal = true ∧
      Like.Holds "23:59:59.999000" "%23:59:59.999%" := by
  obtain ⟨operand, shown, hpattern, hshown, -, hholds⟩ :=
    Like.holds_temporal (v := .time ⟨23, 59, 59, 999000000, by decide⟩) rfl
  have hbound : (Value.time ⟨23, 59, 59, 999000000, by decide⟩).likePattern =
      .string "%23:59:59.999%" := congrArg Value.string (by decide +kernel)
  have hcell : (Value.time ⟨23, 59, 59, 999000000, by decide⟩).toCell.shown? .other =
      some "23:59:59.999000" := by decide +kernel
  have hkept : (Value.time ⟨23, 59, 59, 999000000, by decide⟩).IsKept := by
    rw [Value.IsKept]
    decide
  have hfound := hholds.mpr hkept
  have htext : shown = "23:59:59.999000" := Option.some.inj (hshown.symm.trans hcell)
  have hwhole : "%" ++ operand ++ "%" = "%23:59:59.999%" :=
    Value.string.inj (hpattern.symm.trans hbound)
  rw [htext, hwhole] at hfound
  exact ⟨rfl, hfound⟩

/-- A time with nanoseconds, and one in a leap second. -/
theorem Like.holds_temporal_nanosecond :
    (Value.time ⟨12, 0, 0, 123456789, by decide⟩).likePattern = .string "%12:00:00.123456789%" ∧
      (Value.time ⟨12, 0, 0, 123456789, by decide⟩).toCell.shown? .other =
        some "12:00:00.123456" ∧
      ¬ "12:00:00.123456789".toList <:+: "12:00:00.123456".toList ∧
      (Value.time ⟨23, 59, 59, 1500000000, by decide⟩).likePattern = .string "%23:59:60.500%" ∧
      (Value.time ⟨23, 59, 59, 1500000000, by decide⟩).toCell.shown? .other =
        some "23:59:59.999999" ∧
      ¬ "23:59:60.500".toList <:+: "23:59:59.999999".toList := by
  have hnano : (Value.time ⟨12, 0, 0, 123456789, by decide⟩).likePattern =
      .string "%12:00:00.123456789%" := congrArg Value.string (by decide +kernel)
  have hleap : (Value.time ⟨23, 59, 59, 1500000000, by decide⟩).likePattern =
      .string "%23:59:60.500%" := congrArg Value.string (by decide +kernel)
  exact ⟨hnano, by decide +kernel, by decide +kernel, hleap, by decide +kernel,
    by decide +kernel⟩

end TableGateway
