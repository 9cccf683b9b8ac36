import Mathlib.Tactic.Lemma
import TableGateway.Value.Json

/-!
# Values read back from their documents

* `Value.IsScalar` — the values that a document holds as scalars.
* `Value.IsScalar.ofJson_toJson` — a scalar is read back from its document as it was.
-/

namespace TableGateway.Value

/-- A value that a document holds as a scalar.  An unsigned integer is one where no signed integer
is the same number, for a reader takes the signed one. -/
inductive IsScalar : Value → Prop where
  | null : IsScalar .null
  | bool (b : Bool) : IsScalar (.bool b)
  | int (n : Int64) : IsScalar (.int n)
  | uint {n : UInt64} (h : 0x8000000000000000 ≤ n.toNat) : IsScalar (.uint n)
  | float {x : Double} (h : x.isFinite = true) : IsScalar (.float x)
  | string (s : String) : IsScalar (.string s)

/-- A finite float is written as a number. -/
lemma floatToJson_of_finite {x : Double} (h : x.isFinite = true) :
    floatToJson x = .number (.float x h) :=
  dif_pos h

/-- A signed number is read back as signed. -/
lemma ofNumber_int64 (n : Int64) : ofNumber (.integer n.toInt (int64_inRange n)) = .int n := by
  have hsigned : n.toInt < 0x8000000000000000 := n.toInt_lt
  rw [ofNumber, if_pos hsigned, Int64.ofInt_toInt]

/-- A number that fits only without a sign is read back as unsigned. -/
lemma ofNumber_uint64 {n : UInt64} (h : 0x8000000000000000 ≤ n.toNat) :
    ofNumber (.integer n.toNat (uint64_inRange n)) = .uint n := by
  have hunsigned : ¬ (n.toNat : Int) < 0x8000000000000000 := by omega
  rw [ofNumber, if_neg hunsigned, Int.toNat_natCast, UInt64.ofNat_toNat]

variable {v : Value}

/-- A scalar is written as one. -/
lemma IsScalar.isContainer_toJson (h : IsScalar v) : v.toJson.isContainer = false := by
  cases h with
  | float hx =>
    rw [toJson, floatToJson_of_finite hx]
    rfl
  | _ => rfl

/-- A scalar is read back from its document as it was. -/
theorem IsScalar.ofJson_toJson (h : IsScalar v) : ofJson v.toJson = v := by
  cases h with
  | int n => rw [toJson, ofJson, ofNumber_int64]
  | uint hn => rw [toJson, ofJson, ofNumber_uint64 hn]
  | float hx => rw [toJson, floatToJson_of_finite hx, ofJson, ofNumber]
  | _ => rfl

end TableGateway.Value
