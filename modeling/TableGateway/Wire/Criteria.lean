import TableGateway.Criterion
import TableGateway.Json.Reader
import TableGateway.Value.Json
import TableGateway.Wire.Error

/-!
# Criteria on the wire

Criteria are written as a JSON object whose entries must all hold.

* `"field!op": scalar` is a comparison; without `!op` it asks for equality.
* `"!or": [object, …]` is a group of which one branch must hold, `"!and"` one of which all must; a
  branch is an object, read like the whole.

Entries are read in the order written, and the first fault in that order is reported.
-/

namespace TableGateway.Wire

/-- The key of an OR group. -/
def orKey : String := "!or"

/-- The key of an AND group. -/
def andKey : String := "!and"

/-- The part of a key before its first `!`, and the part after it if there is one. -/
def splitKey (key : String) : String × Option String :=
  let cs := key.toList
  let field := String.ofList (cs.takeWhile (· ≠ '!'))
  match cs.dropWhile (· ≠ '!') with
  | [] => (field, none)
  | _ :: operator => (field, some (String.ofList operator))

/-- The operator of a key's second part. -/
def operatorOf (part : Option String) : Except WireError Operator :=
  match part with
  | none => .ok Operator.default
  | some name => match Operator.ofName? name with
    | some op => .ok op
    | none => .error (.unknownOperator name)

/-- A comparison entry. -/
def comparisonOf (key : String) (value : Json) : Except WireError Criterion := do
  let (field, part) := splitKey key
  let operator ← operatorOf part
  if field = "" then .error (.emptyField key)
  else if value.isContainer then .error (.nonScalar field)
  else .ok (Criterion.compare field operator (Value.ofJson value))

/-- The criterion of a branch with these entries: a single one stands for itself. -/
def branchOf (key : String) : List Criterion → Except WireError Criterion
  | [] => .error (.emptyBranch key)
  | [c] => .ok c
  | cs => .ok (.group .and cs)

mutual

/-- The criteria of an object's entries, in the order written. -/
def entriesOf : List (String × Json) → Except WireError (List Criterion)
  | [] => .ok []
  | (key, value) :: rest => do
    let criterion ← entryOf key value
    let others ← entriesOf rest
    .ok (criterion :: others)

/-- The criterion of an entry. -/
def entryOf (key : String) : Json → Except WireError Criterion
  | .array (branch :: rest) =>
    if key = orKey then do
      let members ← branchesOf key (branch :: rest)
      .ok (.group .or members)
    else if key = andKey then do
      let members ← branchesOf key (branch :: rest)
      .ok (.group .and members)
    else comparisonOf key (.array (branch :: rest))
  | value =>
    if key = orKey ∨ key = andKey then .error (.badGroup key)
    else comparisonOf key value

/-- The criteria of a group's branches. -/
def branchesOf (key : String) : List Json → Except WireError (List Criterion)
  | [] => .ok []
  | .object entries :: rest => do
    let members ← entriesOf entries
    let criterion ← branchOf key members
    let others ← branchesOf key rest
    .ok (criterion :: others)
  | _ :: _ => .error (.badGroup key)

end

/-- The criteria of a document.  An object without entries asks for nothing. -/
def criteriaOf : Json → Except WireError (Option Criterion)
  | .object entries => do
    match ← entriesOf entries with
    | [] => .ok none
    | [c] => .ok (some c)
    | cs => .ok (some (.group .and cs))
  | _ => .error (.notAnObject "criteria")

/-- The document of a wire text. -/
def document (text : String) : Except WireError Json :=
  match Json.parse? text with
  | some json => .ok json
  | none => .error .notJson

/-- The criteria of a wire text. -/
def criteria (text : String) : Except WireError (Option Criterion) := do
  criteriaOf (← document text)

end TableGateway.Wire
