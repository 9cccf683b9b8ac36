import TableGateway.Endpoint.Url
import TableGateway.Wire.Records

/-!
# Options

What a caller states in texts and numbers: where the engine is, and which rows of which table are
meant.

* `ConnectionOptions.endpoint` — the endpoint; a connection URL wins over everything else.
* `QueryOptions.query` — the query; the criteria are read before the sort.
-/

namespace TableGateway

/-- Where the engine is. -/
structure ConnectionOptions where
  url : Option String
  host : String
  port : UInt16
  user : String
  password : String
  database : String
  deriving DecidableEq, Repr

namespace ConnectionOptions

/-- The options where nothing is stated. -/
def default : ConnectionOptions :=
  ⟨none, "localhost", Endpoint.defaultPort, "root", "password", "testing"⟩

/-- The endpoint that the options name. -/
def endpoint (options : ConnectionOptions) : Except UrlError Endpoint :=
  match options.url with
  | some url => Endpoint.ofUrl url
  | none => .ok ⟨options.host, options.port, some options.user, some options.password,
    some options.database⟩

end ConnectionOptions

/-- Which rows of which table are meant. -/
structure QueryOptions where
  table : String
  /-- Criteria as a wire text. -/
  criteria : String
  /-- A sort as a wire text. -/
  sort : Option String
  limit : Option Int64
  skip : Option Int64
  deriving DecidableEq, Repr

namespace QueryOptions

/-- The sort that is stated, if one is. -/
def sortOrder (options : QueryOptions) : Except WireError SortOrder :=
  match options.sort with
  | some text => Wire.sort text
  | none => .ok .empty

/-- The query that the options state. -/
def query (options : QueryOptions) : Except WireError Query := do
  let criteria ← Wire.criteria options.criteria
  let sort ← options.sortOrder
  .ok ⟨options.table, criteria, sort, Page.ofSigned options.limit options.skip⟩

end QueryOptions

end TableGateway
