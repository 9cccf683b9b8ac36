import TableGateway.Double

/-!
# JSON documents

The tree that a JSON text stands for.  Objects keep their members in the order in which they were
written, which is the order that bound parameters and sort entries follow.

A number is an integer wherever one fits the union of the signed and the unsigned 64-bit range, and
a finite binary64 number otherwise; both bounds are part of the type.
-/

namespace TableGateway

/-- A JSON number. -/
inductive Json.Number where
  /-- An integer from the least signed to the greatest unsigned one of 64 bits. -/
  | integer (value : Int) (inRange : -0x8000000000000000 ≤ value ∧ value < 0x10000000000000000)
  /-- Any other number, which has a fraction, an exponent, or is out of that range. -/
  | float (value : Double) (finite : value.isFinite = true)
  deriving DecidableEq

/-- A JSON document. -/
inductive Json where
  | null
  | bool (value : Bool)
  | number (value : Json.Number)
  | string (value : String)
  | array (items : List Json)
  | object (members : List (String × Json))

namespace Json

instance : Inhabited Json := ⟨.null⟩

/-- The integer of a number that fits 64 signed bits. -/
def Number.signed? : Number → Option Int64
  | .integer value _ => if value < 0x8000000000000000 then some (Int64.ofInt value) else none
  | .float _ _ => none

/-- The integer of a document that is a number within 64 signed bits. -/
def signed? : Json → Option Int64
  | .number n => n.signed?
  | _ => none

/-- Whether a document is an array or an object. -/
def isContainer : Json → Bool
  | .array _ | .object _ => true
  | _ => false

/-- Write a member: a new key goes to the end, a present one keeps its place and takes the value. -/
def setMember (key : String) (value : Json) : List (String × Json) → List (String × Json)
  | [] => [(key, value)]
  | (k, v) :: rest => if k = key then (k, value) :: rest else (k, v) :: setMember key value rest

/-- The value of a key. -/
def member? (key : String) : List (String × Json) → Option Json
  | [] => none
  | (k, v) :: rest => if k = key then some v else member? key rest

/-- An object from its members in the order written, a repeated key taking its last value. -/
def ofMembers (members : List (String × Json)) : Json :=
  .object (members.foldl (fun acc m => setMember m.1 m.2 acc) [])

end Json

end TableGateway
