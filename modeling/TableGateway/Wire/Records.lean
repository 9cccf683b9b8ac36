import TableGateway.Query
import TableGateway.Row
import TableGateway.Wire.Criteria

/-!
# Sort entries, pages and rows on the wire

* Sort entries are an object `{"field": n, …}` or a list `[["field", n], …]`; both give precedence
  in the order written, and a positive number means ascending.
* A page is an object with `limit` and `skip` (or `offset`); negative numbers and what is no
  signed integer mean "unset".
* Rows are one object or a list of objects.
-/

namespace TableGateway.Wire

/-- The direction that a document gives to a field. -/
def directionOf (field : String) (dir : Json) : Except WireError Direction :=
  match dir.signed? with
  | some n => .ok (Direction.ofSigned n)
  | none => .error (.badDirection field)

/-- The sort entries of an object's members. -/
def sortMembers : List (String × Json) → Except WireError (List (String × Direction))
  | [] => .ok []
  | (field, dir) :: rest => do
    let direction ← directionOf field dir
    let others ← sortMembers rest
    .ok ((field, direction) :: others)

/-- The field and the direction of a pair. -/
def sortPair : Json → Except WireError (String × Json)
  | .array [.string field, dir] => .ok (field, dir)
  | _ => .error (.notAnObject "sort entry")

/-- The sort entries of a list of pairs. -/
def sortPairs : List Json → Except WireError (List (String × Direction))
  | [] => .ok []
  | pair :: rest => do
    let (field, dir) ← sortPair pair
    let direction ← directionOf field dir
    let others ← sortPairs rest
    .ok ((field, direction) :: others)

/-- The sort order of a document. -/
def sortOf : Json → Except WireError SortOrder
  | .object members => return ⟨← sortMembers members⟩
  | .array pairs => return ⟨← sortPairs pairs⟩
  | _ => .error (.notAnObject "sort")

/-- The sort order of a wire text. -/
def sort (text : String) : Except WireError SortOrder := do
  sortOf (← document text)

/-- The page of a document.  `skip` hides `offset` even where it is no number. -/
def pageOf : Json → Except WireError Page
  | .object members =>
    let limit := (Json.member? "limit" members).bind Json.signed?
    let offset := ((Json.member? "skip" members).orElse fun _ => Json.member? "offset" members).bind
      Json.signed?
    .ok (Page.ofSigned limit offset)
  | _ => .error (.notAnObject "pagination")

/-- The page of a wire text. -/
def page (text : String) : Except WireError Page := do
  pageOf (← document text)

/-- The row of a document. -/
def rowOf : Json → Except WireError Row
  | .object members => .ok (Row.ofList (Value.fieldsOfJson members))
  | _ => .error (.notAnObject "row")

/-- The rows of a list of documents. -/
def rowList : List Json → Except WireError (List Row)
  | [] => .ok []
  | json :: rest => do
    let row ← rowOf json
    let others ← rowList rest
    .ok (row :: others)

/-- The rows of a document: a list of objects, or one object. -/
def rowsOf : Json → Except WireError (List Row)
  | .array items => rowList items
  | json => return [← rowOf json]

/-- The row of a wire text. -/
def row (text : String) : Except WireError Row := do
  rowOf (← document text)

/-- The rows of a wire text. -/
def rows (text : String) : Except WireError (List Row) := do
  rowsOf (← document text)

end TableGateway.Wire
