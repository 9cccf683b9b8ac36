import TableGateway.Json.Token

/-!
# Reading JSON

`Json.parse?` reads a document from its tokens one at a time.  Between two tokens the reader is in
a `Reading`: what is expected next, inside the containers that are still open.  A reader that is
left expecting nothing, with no container open, has read a document.
-/

namespace TableGateway.Json

/-- A container that is still open, around the value being read. -/
inductive Frame where
  /-- An array with its items so far, the last one first. -/
  | array (items : List Json)
  /-- An object with its members so far and the key that waits for its value. -/
  | object (members : List (String × Json)) (key : String)

/-- Where the reader stands between two tokens. -/
inductive Reading where
  /-- A value must follow. -/
  | value (around : List Frame)
  /-- An array has been opened: a value or its end must follow. -/
  | firstItem (around : List Frame)
  /-- An object has been opened: a key or its end must follow. -/
  | firstKey (around : List Frame)
  /-- A key must follow. -/
  | key (around : List Frame) (members : List (String × Json))
  /-- A colon must follow. -/
  | colon (around : List Frame) (members : List (String × Json)) (key : String)
  /-- A value is complete: a comma or the end of what is around it must follow. -/
  | complete (around : List Frame) (value : Json)

/-- How many containers may be open at a time. -/
def depthLimit : Nat := 127

/-- Read a token where a value must follow. -/
def startValue (around : List Frame) : Token → Option Reading
  | .openArray => if around.length < depthLimit then some (.firstItem around) else none
  | .openObject => if around.length < depthLimit then some (.firstKey around) else none
  | .null => some (.complete around .null)
  | .bool b => some (.complete around (.bool b))
  | .number n => some (.complete around (.number n))
  | .string s => some (.complete around (.string s))
  | _ => none

/-- Read a token after a complete value. -/
def continueAfter (value : Json) : List Frame → Token → Option Reading
  | .array items :: around, .comma => some (.value (.array (value :: items) :: around))
  | .array items :: around, .closeArray =>
    some (.complete around (.array (value :: items).reverse))
  | .object members key :: around, .comma => some (.key around (setMember key value members))
  | .object members key :: around, .closeObject =>
    some (.complete around (.object (setMember key value members)))
  | _, _ => none

/-- Read a token. -/
def Reading.step : Reading → Token → Option Reading
  | .value around, t => startValue around t
  | .firstItem around, .closeArray => some (.complete around (.array []))
  | .firstItem around, t => startValue (.array [] :: around) t
  | .firstKey around, .closeObject => some (.complete around (.object []))
  | .firstKey around, .string k => some (.colon around [] k)
  | .firstKey _, _ => none
  | .key around members, .string k => some (.colon around members k)
  | .key _ _, _ => none
  | .colon around members k, .colon => some (.value (.object members k :: around))
  | .colon _ _ _, _ => none
  | .complete around v, t => continueAfter v around t

/-- The document that has been read, if one is complete. -/
def Reading.result? : Reading → Option Json
  | .complete [] v => some v
  | _ => none

/-- The document that a text stands for. -/
def parse? (s : String) : Option Json := do
  let tokens ← tokens? s
  let reading ← tokens.foldlM Reading.step (.value [])
  reading.result?

end TableGateway.Json
