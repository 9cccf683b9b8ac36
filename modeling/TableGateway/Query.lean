import TableGateway.Criterion

/-!
# Queries

What an operation on existing rows applies to: a table, criteria, an order and a page.

* `SortOrder` — fields to order by, earlier ones taking precedence.
* `Page` — a limit and an offset, each optional; `Page.window` is the pair to ask the engine for.
-/

namespace TableGateway

/-- The direction of a sort entry. -/
inductive Direction where
  | ascending
  | descending
  deriving DecidableEq, Repr

/-- Positive numbers mean ascending, all others descending. -/
def Direction.ofSigned (n : Int64) : Direction :=
  if 0 < n then .ascending else .descending

/-- Fields to order by. -/
structure SortOrder where
  entries : List (String × Direction)
  deriving DecidableEq, Repr

namespace SortOrder

def empty : SortOrder := ⟨[]⟩

/-- The sort followed by one more field. -/
def andThen (sort : SortOrder) (field : String) (direction : Direction) : SortOrder :=
  ⟨sort.entries ++ [(field, direction)]⟩

/-- The sort with the directions given as signed numbers. -/
def ofSigned (entries : List (String × Int64)) : SortOrder :=
  ⟨entries.map fun e => (e.1, Direction.ofSigned e.2)⟩

def isEmpty (sort : SortOrder) : Bool :=
  sort.entries.isEmpty

end SortOrder

/-- A part of the rows, by the number of rows wanted and of rows passed over. -/
structure Page where
  limit : Option UInt64
  offset : Option UInt64
  deriving DecidableEq, Repr

namespace Page

/-- All rows. -/
def all : Page := ⟨none, none⟩

/-- The limit where only an offset is given, which the engine does not accept alone. -/
def offsetOnlyLimit : UInt64 := 1000

/-- A number that is not negative; negative numbers mean "unset". -/
def unsigned? (n : Int64) : Option UInt64 :=
  if 0 ≤ n.toInt then some (UInt64.ofNat n.toInt.toNat) else none

/-- The page of signed numbers, where negative ones mean "unset". -/
def ofSigned (limit offset : Option Int64) : Page :=
  ⟨limit.bind unsigned?, offset.bind unsigned?⟩

/-- The limit and the offset to ask for, if any.  An offset of zero is dropped. -/
def window (page : Page) : Option (UInt64 × Option UInt64) :=
  match page.limit, page.offset.filter (0 < ·) with
  | some limit, offset => some (limit, offset)
  | none, some offset => some (offsetOnlyLimit, some offset)
  | none, none => none

def isUnbounded (page : Page) : Bool :=
  page.window.isNone

end Page

/-- What an operation on existing rows applies to. -/
structure Query where
  table : String
  criteria : Option Criterion
  sort : SortOrder
  page : Page

/-- All rows of a table, in no order. -/
def Query.ofTable (table : String) : Query :=
  ⟨table, none, .empty, .all⟩

end TableGateway
