import TableGateway.Cell.Basic
import TableGateway.Text.Utf8
import TableGateway.Value.Json

/-!
# Binding values

`Value.toCell` gives the one form in which a value is bound.

* Temporal values bind natively, fractions cut to microseconds; a year that the protocol cannot
  carry makes the value bind as its text.
* Custom values bind as their canonical form, arrays and objects as JSON text, and every other
  scalar as itself.
-/

namespace TableGateway

/-- Text as a cell. -/
def Cell.text (s : String) : Cell :=
  .bytes (Text.Utf8.encode s)

/-- A year that the protocol carries natively. -/
def RawDate.year? (year : Int) : Option UInt16 :=
  if 0 ≤ year ∧ year ≤ 9999 then some (UInt16.ofNat year.toNat) else none

/-- Nanoseconds cut to microseconds.  In a leap second they are capped at the last one. -/
def RawDate.microsOf (nano : Nat) : UInt32 :=
  UInt32.ofNat (min (nano / 1000) 999999)

/-- A date as a cell, if its year allows. -/
def Date.toRaw? (d : Date) : Option RawDate :=
  (RawDate.year? d.year).map fun year =>
    ⟨year, UInt8.ofNat d.month, UInt8.ofNat d.day, 0, 0, 0, 0⟩

/-- A date with a time as a cell, if its year allows. -/
def DateTime.toRaw? (t : DateTime) : Option RawDate :=
  (RawDate.year? t.date.year).map fun year =>
    ⟨year, UInt8.ofNat t.date.month, UInt8.ofNat t.date.day, UInt8.ofNat t.time.hour,
      UInt8.ofNat t.time.minute, UInt8.ofNat t.time.second, RawDate.microsOf t.time.nano⟩

/-- A time of day as a cell. -/
def TimeOfDay.toRaw (t : TimeOfDay) : RawTime :=
  ⟨false, 0, UInt8.ofNat t.hour, UInt8.ofNat t.minute, UInt8.ofNat t.second,
    RawDate.microsOf t.nano⟩

namespace Value

/-- The cell that a value binds as. -/
def toCell : Value → Cell
  | .null => .null
  | .bool b => .int (if b then 1 else 0)
  | .int n => .int n
  | .uint n => .uint n
  | .float x => .double x
  | .string s => .text s
  | .bytes b => .bytes b
  | .date d => match d.toRaw? with
    | some raw => .date raw
    | none => .text (String.ofList d.text)
  | .dateTime t => match t.toRaw? with
    | some raw => .date raw
    | none => .text (String.ofList t.text)
  | .time t => .time t.toRaw
  | .array items => .text (jsonText (.array items))
  | .object fields => .text (jsonText (.object fields))
  | .custom canonical => toCell canonical

/-- The plain text of a LIKE operand: how the engine would show a column with that value. -/
def likeText : Value → String
  | .string s => s
  | .bytes b => Text.Utf8.decodeLossy b
  | .date d => String.ofList d.text
  | .dateTime t => String.ofList t.text
  | .time t => String.ofList t.text
  | .custom canonical => likeText canonical
  | v => match v.toJson with
    | .string s => s
    | json => json.compact

/-- The LIKE pattern for an operand: its text between two wildcards. -/
def likePattern (v : Value) : Value :=
  .string ("%" ++ likeText v ++ "%")

end Value

end TableGateway
