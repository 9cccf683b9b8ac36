import TableGateway.Proofs.Cell.Temporal
import TableGateway.Proofs.Text

/-!
# Spans of time read back

A cell of a time is a signed span.  Where it lies within the first day it is read as the time of
day, and everywhere else as a text, in which the days have gone into the hours.  The reader here
takes such a text apart again, and knows nothing of how it was written.

* `Span` — what the text of a span says; `Span.read?` reads `[-]H..H:MM:SS[.ffffff]`, and refuses
  every text of another form.
* `RawTime.read?_text` — the text of a span says its sign and its fields.
* `RawTime.span_inj` — days and hours can be told from all hours together.
* `RawTime.Read` — the two ways in which a cell is read; `RawTime.read_toValue` says which of them
  it is.
* **`Cell.same_toValue_time`** — no two cells of times are read as equal values.
-/

namespace TableGateway

/-- What the text of a span says. -/
structure Span where
  negative : Bool
  hours : Nat
  minutes : Nat
  seconds : Nat
  micros : Nat
  deriving DecidableEq, Repr

/-! ## The reader -/

namespace Span

/-- A number of exactly as many digits. -/
def field? (width : Nat) (cs : List Char) : Option Nat :=
  if cs.length = width then Text.value? cs else none

/-- A number of two digits or more. -/
def hours? (cs : List Char) : Option Nat :=
  if 2 ≤ cs.length then Text.value? cs else none

/-- Two digits for seconds, and then nothing, or a point and six digits for microseconds. -/
def seconds? (cs : List Char) : Option (Nat × Nat) :=
  match cs.splitOn '.' with
  | [seconds] => (field? 2 seconds).map fun seconds => (seconds, 0)
  | [seconds, micros] => do some (← field? 2 seconds, ← field? 6 micros)
  | _ => none

/-- Hours, minutes and seconds with colons between them. -/
def unsigned? (negative : Bool) (cs : List Char) : Option Span :=
  match cs.splitOn ':' with
  | [hours, minutes, rest] => do
    let (seconds, micros) ← seconds? rest
    some ⟨negative, ← hours? hours, ← field? 2 minutes, seconds, micros⟩
  | _ => none

/-- The span that a text of the form `[-]H..H:MM:SS[.ffffff]` says. -/
def read? : List Char → Option Span
  | '-' :: cs => unsigned? true cs
  | cs => unsigned? false cs

open Text (padded)

/-- A padded number is read back if it fits its width. -/
lemma field?_padded {width n : Nat} (h : 0 < width) (hn : n < 10 ^ width) :
    field? width (padded width n) = some n := by
  rw [field?, if_pos (Text.length_padded h hn), Text.value?_padded]

lemma hours?_padded (n : Nat) : hours? (padded 2 n) = some n := by
  rw [hours?, if_pos (Text.le_length_padded 2 n), Text.value?_padded]

/-- A fraction that is zero is not written, and is read as zero. -/
lemma seconds?_text {s u : Nat} (hs : s < 60) (hu : u < 1000000) :
    seconds? (padded 2 s ++ if 0 < u then '.' :: padded 6 u else []) = some (s, u) := by
  have hpoint : '.' ∉ padded 2 s := Text.notMem_padded rfl
  have hseconds : field? 2 (padded 2 s) = some s := field?_padded (by decide) (by omega)
  rcases Nat.eq_zero_or_pos u with rfl | hpos
  · simp [seconds?, List.splitOn_eq_singleton hpoint, hseconds]
  · have hmicros : field? 6 (padded 6 u) = some u := field?_padded (by decide) hu
    have hrest : '.' ∉ padded 6 u := Text.notMem_padded rfl
    rw [if_pos hpos, seconds?, List.splitOn_append_cons_self_of_not_mem hpoint,
      List.splitOn_eq_singleton hrest]
    simp [hseconds, hmicros]

/-- A span is read back from its text. -/
lemma unsigned?_text (negative : Bool) {h m s u : Nat} (hm : m < 60) (hs : s < 60)
    (hu : u < 1000000) :
    unsigned? negative (padded 2 h ++ ':' :: (padded 2 m ++ ':' :: (padded 2 s ++
      if 0 < u then '.' :: padded 6 u else []))) = some ⟨negative, h, m, s, u⟩ := by
  have hcolon {width n : Nat} : ':' ∉ padded width n := Text.notMem_padded rfl
  have hlast : ':' ∉ padded 2 s ++ if 0 < u then '.' :: padded 6 u else [] := by
    split <;> simp [hcolon]
  have hminutes : field? 2 (padded 2 m) = some m := field?_padded (by decide) (by omega)
  rw [unsigned?, List.splitOn_append_cons_self_of_not_mem hcolon,
    List.splitOn_append_cons_self_of_not_mem hcolon, List.splitOn_eq_singleton hlast]
  simp [seconds?_text hs hu, hours?_padded, hminutes]

/-- A digit in front says that there is no sign. -/
lemma read?_padded (width n : Nat) (rest : List Char) :
    read? (padded width n ++ rest) = unsigned? false (padded width n ++ rest) := by
  have hminus : '-' ∉ padded width n := Text.notMem_padded rfl
  have hvalue := Text.value?_padded width n
  cases hcs : padded width n with
  | nil => simp [hcs, Text.value?] at hvalue
  | cons c cs =>
    have hc : c ≠ '-' := by
      rintro rfl
      simp [hcs] at hminus
    rw [List.cons_append, read?]
    simpa using hc

end Span

/-! ## What is read of a cell -/

namespace RawTime

variable {a b raw : RawTime}

/-- The hours of a span, those of its days among them. -/
def totalHours (raw : RawTime) : Nat :=
  raw.days.toNat * 24 + raw.hours.toNat

/-- The span that a cell is. -/
def span (raw : RawTime) : Span :=
  ⟨raw.negative, raw.totalHours, raw.minutes.toNat, raw.seconds.toNat, raw.micros.toNat⟩

/-- All hours together are a number of 64 bits, however many days there are. -/
lemma totalHours_lt (raw : RawTime) : raw.totalHours < UInt64.size := by
  have hdays : raw.days.toNat < 4294967296 := raw.days.toNat_lt
  have hhours : raw.hours.toNat < 256 := raw.hours.toNat_lt
  have hsize : UInt64.size = 18446744073709551616 := rfl
  rw [totalHours]
  omega

/-- Days and hours can be told from all hours together, if the hours are those of a clock. -/
theorem span_inj (ha : a.InRange) (hb : b.InRange) : a.span = b.span ↔ a = b := by
  constructor
  · intro h
    simp only [span, totalHours, Span.mk.injEq] at h
    obtain ⟨hnegative, hhours, hminutes, hseconds, hmicros⟩ := h
    have halt := ha.hours
    have hblt := hb.hours
    rw [RawTime.mk.injEq]
    refine ⟨hnegative, ?_, ?_, ?_, ?_, ?_⟩
    · exact UInt32.toNat_inj.mp (by omega)
    · exact UInt8.toNat_inj.mp (by omega)
    · exact UInt8.toNat_inj.mp hminutes
    · exact UInt8.toNat_inj.mp hseconds
    · exact UInt32.toNat_inj.mp hmicros
  · rintro rfl
    rfl

/-- The text of a span says its sign and its fields. -/
theorem read?_text (h : raw.InRange) : Span.read? raw.text = some raw.span := by
  have hread (negative : Bool) :=
    Span.unsigned?_text negative (h := raw.totalHours) h.minutes h.seconds h.micros
  cases hsign : raw.negative with
  | false =>
    simp only [text, hsign, Bool.false_eq_true, if_false, List.nil_append, List.append_assoc,
      List.cons_append]
    rw [Span.read?_padded, span, hsign]
    exact hread false
  | true =>
    simp only [text, hsign, if_true, List.append_assoc, List.cons_append, List.nil_append]
    rw [Span.read?, span, hsign]
    exact hread true

/-- What a cell is read as: a time of day with its fields, or a text that says its sign, all its
hours, and its other fields. -/
inductive Read (raw : RawTime) : Value → Prop where
  | time {t : TimeOfDay} (positive : raw.negative = false) (days : raw.days = 0)
      (hour : t.hour = raw.hours.toNat) (minute : t.minute = raw.minutes.toNat)
      (second : t.second = raw.seconds.toNat) (nano : t.nano = raw.micros.toNat * 1000) :
      Read raw (.time t)
  | text {s : String} (outside : ¬ (raw.negative = false ∧ raw.days = 0))
      (told : Span.read? s.toList = some raw.span) : Read raw (.string s)

/-- A time in range is read as a time of day or as its text. -/
theorem read_toValue (h : raw.InRange) : raw.Read raw.toValue := by
  by_cases hday : raw.negative = false ∧ raw.days = 0
  · have hhours := h.hours
    have hminutes := h.minutes
    have hseconds := h.seconds
    have hmicros := h.micros
    have hnano : raw.micros.toNat * 1000 < 1000000000 := by omega
    let time : TimeOfDay := ⟨raw.hours.toNat, raw.minutes.toNat, raw.seconds.toNat,
      raw.micros.toNat * 1000, by omega⟩
    have htime : raw.timeOfDay? = some time := by
      rw [timeOfDay?, if_pos hday]
      exact TimeOfDay.ofHms?_self (t := time) hnano
    rw [toValue, htime]
    exact .time hday.1 hday.2 rfl rfl rfl rfl
  · have htime : raw.timeOfDay? = none := if_neg hday
    rw [toValue, htime]
    refine .text hday ?_
    rw [String.toList_ofList]
    exact read?_text h

/-- What is read is the same as itself. -/
lemma Read.same_self {v : Value} (h : raw.Read v) : v.same v = true := by
  cases h with
  | time _ _ _ _ _ _ => simp [Value.same]
  | text _ _ => simp [Value.same]

/-- Equal values are of one span. -/
lemma Read.span_eq {v w : Value} (ha : a.Read v) (hb : b.Read w) (h : v.same w = true) :
    a.span = b.span := by
  cases ha with
  | time hpositive hdays hhour hminute hsecond hnano =>
    cases hb with
    | time hpositive' hdays' hhour' hminute' hsecond' hnano' =>
      simp only [Value.same, decide_eq_true_eq] at h
      subst h
      have hmicros : a.micros.toNat = b.micros.toNat := by omega
      simp [span, totalHours, hpositive, hpositive', hdays, hdays', ← hhour, ← hhour', ← hminute,
        ← hminute', ← hsecond, ← hsecond', hmicros]
    | text _ _ => simp [Value.same] at h
  | text _ htold =>
    cases hb with
    | time _ _ _ _ _ _ => simp [Value.same] at h
    | text _ htold' =>
      simp only [Value.same, beq_iff_eq] at h
      subst h
      exact Option.some.inj (htold.symm.trans htold')

end RawTime

/-- **Nothing of a time is lost.**  A cell of a time with fields in their ranges is read as a time
of day with the same fields if it has no sign and no days, and else as a text of the form
`[-]H..H:MM:SS[.ffffff]` that says its sign, its hours with those of its days, which 64 bits hold,
and its other fields.  So two cells are read as equal values only if they are one. -/
theorem Cell.same_toValue_time {a : RawTime} (ha : a.InRange) (type : ColumnType) :
    a.Read ((Cell.time a).toValue type) ∧ a.totalHours < UInt64.size ∧
      ∀ (b : RawTime) (column : ColumnType), b.InRange →
        (((Cell.time a).toValue type).same ((Cell.time b).toValue column) = true ↔ a = b) := by
  have hread : a.Read ((Cell.time a).toValue type) := RawTime.read_toValue ha
  refine ⟨hread, a.totalHours_lt, ?_⟩
  intro b column hb
  constructor
  · intro hsame
    exact (RawTime.span_inj ha hb).mp (hread.span_eq (RawTime.read_toValue hb) hsame)
  · rintro rfl
    exact hread.same_self

/-- A span of a day, and the same hours before the first day. -/
theorem Cell.same_toValue_time_sign :
    RawTime.InRange ⟨false, 1, 0, 0, 0, 0⟩ ∧ RawTime.InRange ⟨true, 1, 0, 0, 0, 0⟩ ∧
      (Cell.time ⟨false, 1, 0, 0, 0, 0⟩).toValue .other = .string "24:00:00" ∧
      ¬ ((Cell.time ⟨false, 1, 0, 0, 0, 0⟩).toValue .other).same
        ((Cell.time ⟨true, 1, 0, 0, 0, 0⟩).toValue .other) = true := by
  have hfirst : RawTime.InRange ⟨false, 1, 0, 0, 0, 0⟩ :=
    ⟨by decide, by decide, by decide, by decide⟩
  have hsecond : RawTime.InRange ⟨true, 1, 0, 0, 0, 0⟩ :=
    ⟨by decide, by decide, by decide, by decide⟩
  obtain ⟨-, -, hsame⟩ := Cell.same_toValue_time hfirst .other
  refine ⟨hfirst, hsecond, ?_, ?_⟩
  · simp [toValue, RawTime.toValue, RawTime.timeOfDay?]
    decide
  · rw [hsame _ .other hsecond]
    simp

end TableGateway
