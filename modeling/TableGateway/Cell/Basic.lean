import TableGateway.Double

/-!
# Cells

What the engine's protocol carries for one value: a bound parameter on the way in, a column's cell
on the way out.  The widths of the fields are those of the protocol.
-/

namespace TableGateway

/-- A date with a time of day as the protocol carries it, whether or not the calendar has it. -/
structure RawDate where
  year : UInt16
  month : UInt8
  day : UInt8
  hour : UInt8
  minute : UInt8
  second : UInt8
  micros : UInt32
  deriving DecidableEq, Repr

/-- A time as the protocol carries it: a signed span of days, hours, minutes and seconds. -/
structure RawTime where
  negative : Bool
  days : UInt32
  hours : UInt8
  minutes : UInt8
  seconds : UInt8
  micros : UInt32
  deriving DecidableEq, Repr

/-- A value as the protocol carries it. -/
inductive Cell where
  | null
  | bytes (value : List UInt8)
  | int (value : Int64)
  | uint (value : UInt64)
  | float (value : Single)
  | double (value : Double)
  | date (value : RawDate)
  | time (value : RawTime)
  deriving DecidableEq, Repr

instance : Inhabited Cell := ⟨.null⟩

/-- The type of a column, as far as it decides how cells are read. -/
inductive ColumnType where
  | date
  | newDate
  | other
  deriving DecidableEq, Repr

/-- Whether cells of the column are dates without a time of day. -/
def ColumnType.isDate : ColumnType → Bool
  | .date | .newDate => true
  | .other => false

/-- The column type of the engine's name for it. -/
def ColumnType.ofName (name : String) : ColumnType :=
  if name = "DATE" then .date else if name = "NEWDATE" then .newDate else .other

end TableGateway
