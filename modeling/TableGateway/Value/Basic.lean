import TableGateway.Calendar
import TableGateway.Double
import TableGateway.Fields

/-!
# Application values

`Value` is what callers put into criteria, update sets and rows, and what result rows are mapped
back into.  It carries no type of any engine.

A custom value is a value of the application's own that reduces itself to a canonical one; all
that matters here is that canonical form, so it is what `Value.custom` holds.  Objects are lists
of fields; `Value.ofFields` brings fields into key order, and `Value.Ordered` says that all
objects inside a value are so.

* `Value.same` — equality: numbers compare as IEEE numbers, custom values by canonical form, and a
  custom value never equals a plain one.
* `Value.signed?`, `unsigned?`, `double?`, `text?` — the conversions.
-/

namespace TableGateway

/-- An application value. -/
inductive Value where
  | null
  | bool (value : Bool)
  | int (value : Int64)
  | uint (value : UInt64)
  | float (value : Double)
  | string (value : String)
  | bytes (value : List UInt8)
  | date (value : Date)
  | dateTime (value : DateTime)
  | time (value : TimeOfDay)
  | array (items : List Value)
  | object (fields : List (String × Value))
  | custom (canonical : Value)

namespace Value

instance : Inhabited Value := ⟨.null⟩

/-- An object with its fields in key order, a later field winning over an earlier one. -/
def ofFields (fields : List (String × Value)) : Value :=
  .object (Fields.ofList fields)

def isNull : Value → Bool
  | .null => true
  | _ => false

/-- Dates, times, and both together. -/
def isTemporal : Value → Bool
  | .date _ | .dateTime _ | .time _ => true
  | _ => false

/-- Arrays and objects. -/
def isStructured : Value → Bool
  | .array _ | .object _ => true
  | _ => false

/-- The value as a signed integer, if it is an integer in range. -/
def signed? : Value → Option Int64
  | .int n => some n
  | .uint n => if n.toNat < 0x8000000000000000 then some (Int64.ofNat n.toNat) else none
  | _ => none

/-- The value as an unsigned integer, if it is an integer in range. -/
def unsigned? : Value → Option UInt64
  | .uint n => some n
  | .int n => if 0 ≤ n.toInt then some (UInt64.ofNat n.toInt.toNat) else none
  | _ => none

/-- The value as a floating-point number, integers to the nearest one. -/
def double? : Value → Option Double
  | .float x => some x
  | .int n => some (Double.ofInt n.toInt)
  | .uint n => some (Double.ofInt n.toNat)
  | _ => none

/-- The text of a string value. -/
def text? : Value → Option String
  | .string s => some s
  | _ => none

mutual

/-- Equality of values. -/
def same : Value → Value → Bool
  | .null, .null => true
  | .bool a, .bool b => a == b
  | .int a, .int b => a == b
  | .uint a, .uint b => a == b
  | .float a, .float b => a.same b
  | .string a, .string b => a == b
  | .bytes a, .bytes b => a == b
  | .date a, .date b => decide (a = b)
  | .dateTime a, .dateTime b => decide (a = b)
  | .time a, .time b => decide (a = b)
  | .array a, .array b => sameItems a b
  | .object a, .object b => sameFields a b
  | .custom a, .custom b => same a b
  | _, _ => false

/-- Equality of lists of values, place by place. -/
def sameItems : List Value → List Value → Bool
  | [], [] => true
  | a :: as, b :: bs => same a b && sameItems as bs
  | _, _ => false

/-- Equality of fields, name by name. -/
def sameFields : List (String × Value) → List (String × Value) → Bool
  | [], [] => true
  | (m, a) :: as, (n, b) :: bs => m == n && same a b && sameFields as bs
  | _, _ => false

end

instance : BEq Value := ⟨same⟩

mutual

/-- Every object inside the value, canonical forms included, has its fields in key order. -/
def Ordered : Value → Prop
  | .array items => OrderedItems items
  | .object fields => Fields.Ascending fields ∧ OrderedFields fields
  | .custom canonical => Ordered canonical
  | _ => True

/-- Every value of the list is ordered. -/
def OrderedItems : List Value → Prop
  | [] => True
  | v :: rest => Ordered v ∧ OrderedItems rest

/-- The value of every field is ordered. -/
def OrderedFields : List (String × Value) → Prop
  | [] => True
  | (_, v) :: rest => Ordered v ∧ OrderedFields rest

end

end Value

end TableGateway
