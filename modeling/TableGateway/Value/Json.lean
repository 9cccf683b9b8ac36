import TableGateway.Json.Printer
import TableGateway.Text.Base64
import TableGateway.Value.Basic

/-!
# Values and JSON

* `Value.toJson` — the document for a value.  Temporal values are their text, bytes are base64,
  custom values are their canonical form, and a number that JSON cannot write is null.
* `Value.ofJson` — the value of a document.  An integer is signed where it fits.
* `Value.jsonText` — the compact text of the document.
-/

namespace TableGateway.Value

/-- A signed integer is a JSON integer. -/
theorem int64_inRange (n : Int64) :
    -0x8000000000000000 ≤ n.toInt ∧ n.toInt < 0x10000000000000000 := by
  have h1 := n.le_toInt
  have h2 := n.toInt_lt
  omega

/-- An unsigned integer is a JSON integer. -/
theorem uint64_inRange (n : UInt64) :
    -0x8000000000000000 ≤ (n.toNat : Int) ∧ (n.toNat : Int) < 0x10000000000000000 := by
  have h := n.toNat_lt
  omega

/-- A number where it is finite, and null otherwise. -/
def floatToJson (x : Double) : Json :=
  if h : x.isFinite = true then .number (.float x h) else .null

mutual

/-- The document for a value. -/
def toJson : Value → Json
  | .null => .null
  | .bool b => .bool b
  | .int n => .number (.integer n.toInt (int64_inRange n))
  | .uint n => .number (.integer n.toNat (uint64_inRange n))
  | .float x => floatToJson x
  | .string s => .string s
  | .bytes b => .string (Text.Base64.encode b)
  | .date d => .string (String.ofList d.text)
  | .dateTime t => .string (String.ofList t.text)
  | .time t => .string (String.ofList t.text)
  | .array items => .array (itemsToJson items)
  | .object fields => .object (fieldsToJson fields)
  | .custom canonical => toJson canonical

/-- The documents for a list of values. -/
def itemsToJson : List Value → List Json
  | [] => []
  | v :: rest => toJson v :: itemsToJson rest

/-- The members for fields. -/
def fieldsToJson : List (String × Value) → List (String × Json)
  | [] => []
  | (name, v) :: rest => (name, toJson v) :: fieldsToJson rest

end

/-- The value of a JSON number. -/
def ofNumber : Json.Number → Value
  | .integer n _ =>
    if n < 0x8000000000000000 then .int (Int64.ofInt n) else .uint (UInt64.ofNat n.toNat)
  | .float x _ => .float x

mutual

/-- The value of a document. -/
def ofJson : Json → Value
  | .null => .null
  | .bool b => .bool b
  | .number n => ofNumber n
  | .string s => .string s
  | .array items => .array (itemsOfJson items)
  | .object members => ofFields (fieldsOfJson members)

/-- The values of a list of documents. -/
def itemsOfJson : List Json → List Value
  | [] => []
  | j :: rest => ofJson j :: itemsOfJson rest

/-- The values of the members, in the order written. -/
def fieldsOfJson : List (String × Json) → List (String × Value)
  | [] => []
  | (name, j) :: rest => (name, ofJson j) :: fieldsOfJson rest

end

/-- The JSON text of a value. -/
def jsonText (v : Value) : String :=
  v.toJson.compact

end TableGateway.Value
