import TableGateway.Decimal.Layout
import TableGateway.Text.Quoted
import TableGateway.Value.Basic

/-!
# Values in error messages

`Value.diagnostic` names the kind of a value and shows its content, as in `Int(-1)` or
`String("six")`.  Messages about values of an unexpected kind are built from it.
-/

namespace TableGateway.Value

/-- In diagnostics numbers are written positionally for exponents from -4 to 15, others with an
exponent that has a sign only where it is negative, and of two equally near decimals the larger one
is taken. -/
def diagnosticLayout : Decimal.Layout := ⟨-4, 16, false, .away⟩

/-- The text of a number, finite or not. -/
def floatDiagnostic (x : Double) : String :=
  if x.isNaN then "NaN"
  else if x.isFinite then diagnosticLayout.write x
  else if x.isNegative then "-inf"
  else "inf"

/-- The kind of a value around its content. -/
def tagged (kind content : String) : String :=
  kind ++ "(" ++ content ++ ")"

mutual

/-- A value as it is shown in messages. -/
def diagnostic : Value → String
  | .null => "Null"
  | .bool b => tagged "Bool" (if b then "true" else "false")
  | .int n => tagged "Int" (String.ofList (Text.integer n.toInt))
  | .uint n => tagged "UInt" (String.ofList (Text.digits n.toNat))
  | .float x => tagged "Float" (floatDiagnostic x)
  | .string s => tagged "String" (Text.quoted s)
  | .bytes b =>
    let items := b.map fun x => String.ofList (Text.digits x.toNat)
    tagged "Bytes" ("[" ++ String.intercalate ", " items ++ "]")
  | .date d => tagged "Date" (String.ofList d.text)
  | .dateTime t => tagged "DateTime" (String.ofList (t.textWith 'T'))
  | .time t => tagged "Time" (String.ofList t.text)
  | .array items => tagged "Array" ("[" ++ itemsDiagnostic items ++ "]")
  | .object fields => tagged "Object" ("\x7b" ++ fieldsDiagnostic fields ++ "\x7d")
  | .custom canonical => tagged "Custom" ((canonical.text?).getD (diagnostic canonical))

/-- Values separated by commas. -/
def itemsDiagnostic : List Value → String
  | [] => ""
  | [v] => diagnostic v
  | v :: rest => diagnostic v ++ ", " ++ itemsDiagnostic rest

/-- Fields separated by commas. -/
def fieldsDiagnostic : List (String × Value) → String
  | [] => ""
  | [(name, v)] => Text.quoted name ++ ": " ++ diagnostic v
  | (name, v) :: rest =>
    Text.quoted name ++ ": " ++ diagnostic v ++ ", " ++ fieldsDiagnostic rest

end

end TableGateway.Value
