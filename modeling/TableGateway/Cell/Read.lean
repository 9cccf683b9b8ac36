import TableGateway.Cell.Basic
import TableGateway.Row
import TableGateway.Text.Utf8

/-!
# Reading result rows

Cells become values as the protocol reports them, with no reconstruction from a schema: decimals
stay text, booleans stay integers.  The column's type matters only for dates.

* A date that the calendar does not have becomes its text, and so does a time outside a single day.
* Bytes that are valid UTF-8 become a string.
* A result row becomes a `Row`; of several columns with one name the last is kept.
-/

namespace TableGateway

/-- The text of a date that the calendar does not have.  The time of day is left out. -/
def RawDate.text (d : RawDate) : List Char :=
  Text.padded 4 d.year.toNat ++ '-' :: Text.padded 2 d.month.toNat ++
    '-' :: Text.padded 2 d.day.toNat

/-- The day of a raw date, if the calendar has it. -/
def RawDate.date? (d : RawDate) : Option Date :=
  Date.ofYmd? d.year.toNat d.month.toNat d.day.toNat

/-- The time of day of a raw date, if it is one. -/
def RawDate.time? (d : RawDate) : Option TimeOfDay :=
  TimeOfDay.ofHms? d.hour.toNat d.minute.toNat d.second.toNat (d.micros.toNat * 1000)

/-- The value of a raw date. -/
def RawDate.toValue (type : ColumnType) (d : RawDate) : Value :=
  match d.date? with
  | none => .string (String.ofList d.text)
  | some date =>
    if type.isDate then .date date
    else match d.time? with
      | some time => .dateTime ⟨date, time⟩
      | none => .date date

/-- The text of a span: a sign, all hours, minutes and seconds, and microseconds if there are
any. -/
def RawTime.text (t : RawTime) : List Char :=
  (if t.negative then ['-'] else []) ++
    Text.padded 2 (t.days.toNat * 24 + t.hours.toNat) ++
    ':' :: Text.padded 2 t.minutes.toNat ++ ':' :: Text.padded 2 t.seconds.toNat ++
    (if 0 < t.micros.toNat then '.' :: Text.padded 6 t.micros.toNat else [])

/-- The time of day of a span within the first day, if it is one. -/
def RawTime.timeOfDay? (t : RawTime) : Option TimeOfDay :=
  if t.negative = false ∧ t.days = 0 then
    TimeOfDay.ofHms? t.hours.toNat t.minutes.toNat t.seconds.toNat (t.micros.toNat * 1000)
  else none

/-- The value of a raw time. -/
def RawTime.toValue (t : RawTime) : Value :=
  match t.timeOfDay? with
  | some time => .time time
  | none => .string (String.ofList t.text)

/-- The value of bytes: text where they are valid. -/
def Cell.bytesToValue (bytes : List UInt8) : Value :=
  match Text.Utf8.decode? bytes with
  | some s => .string s
  | none => .bytes bytes

/-- The value of a cell in a column of this type. -/
def Cell.toValue (type : ColumnType) : Cell → Value
  | .null => .null
  | .int n => .int n
  | .uint n => .uint n
  | .float x => .float x.widen
  | .double x => .float x
  | .bytes b => bytesToValue b
  | .date d => d.toValue type
  | .time t => t.toValue

/-- A column of a result, its name in bytes. -/
structure Column where
  name : List UInt8
  type : ColumnType

/-- The value of a result row's cell; one that is gone reads as null. -/
def Column.value (column : Column) (cell : Option Cell) : Value :=
  match cell with
  | some c => c.toValue column.type
  | none => .null

/-- The fields of a result row, column by column. -/
def Row.fieldsOfCells : List (Column × Option Cell) → List (String × Value)
  | [] => []
  | (column, cell) :: rest =>
    (Text.Utf8.decodeLossy column.name, column.value cell) :: fieldsOfCells rest

/-- The row of a result row's columns with their cells. -/
def Row.ofCells (cells : List (Column × Option Cell)) : Row :=
  Row.ofList (Row.fieldsOfCells cells)

end TableGateway
