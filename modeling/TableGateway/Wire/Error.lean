/-!
# Faults of wire input

What can be wrong with a text that encodes criteria, sort entries, a page or rows.
-/

namespace TableGateway

/-- Why a wire text was refused. -/
inductive WireError where
  /-- A comparison names an operator that does not exist. -/
  | unknownOperator (name : String)
  /-- Something is no object, or no entry, where one is needed. -/
  | notAnObject (what : String)
  /-- A group's value is no list of objects, or an empty one. -/
  | badGroup (key : String)
  /-- A branch of a group has no entries. -/
  | emptyBranch (key : String)
  /-- A comparison's value is an array or an object. -/
  | nonScalar (field : String)
  /-- A comparison names no field. -/
  | emptyField (key : String)
  /-- A sort entry's direction is no signed integer. -/
  | badDirection (field : String)
  /-- The text is no JSON document. -/
  | notJson
  deriving DecidableEq, Repr

/-- The text of a fault. -/
def WireError.message : WireError → String
  | .unknownOperator name => "Unknown operator: " ++ name
  | .notAnObject what => "Expected a JSON object for " ++ what
  | .badGroup key => "'" ++ key ++ "' expects a non-empty list of objects"
  | .emptyBranch key => "Empty branch inside '" ++ key ++ "'"
  | .nonScalar field => "Field '" ++ field ++ "' must be compared with a scalar value"
  | .emptyField key => "Empty field name in key '" ++ key ++ "'"
  | .badDirection field => "Sort direction for '" ++ field ++ "' must be an integer"
  | .notJson => "Invalid JSON: no complete document"

end TableGateway
