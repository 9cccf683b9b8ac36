import TableGateway.Value.Basic

/-!
# Criteria

Which rows an operation means: a `Criterion` is a single comparison of a field with a value, or a
group of criteria combined by AND or OR.  Groups nest to any depth.
-/

namespace TableGateway

/-- How a comparison relates its field to its value. -/
inductive Operator where
  | eq
  | ne
  | gt
  | lt
  | gte
  | lte
  /-- The field's text contains the value's, whose wildcards keep their meaning. -/
  | like
  deriving DecidableEq, Repr, Inhabited

namespace Operator

/-- All operators. -/
def all : List Operator := [.eq, .ne, .gt, .lt, .gte, .lte, .like]

/-- The operator of a comparison that names none. -/
def default : Operator := .eq

/-- The name of an operator. -/
def name : Operator → String
  | .eq => "eq"
  | .ne => "ne"
  | .gt => "gt"
  | .lt => "lt"
  | .gte => "gte"
  | .lte => "lte"
  | .like => "like"

/-- The operator of a name. -/
def ofName? (s : String) : Option Operator :=
  all.find? fun op => op.name = s

/-- Every operator is found by its name. -/
theorem ofName?_name (op : Operator) : ofName? op.name = some op := by
  cases op <;> decide

/-- A name that is found is the name of what is found. -/
theorem name_of_ofName? {s : String} {op : Operator} (h : ofName? s = some op) : op.name = s := by
  simpa using List.find?_some h

end Operator

/-- How a group combines its members. -/
inductive Combinator where
  | and
  | or
  deriving DecidableEq, Repr

/-- A field, an operator and the value to compare with. -/
structure Comparison where
  field : String
  operator : Operator
  value : Value

/-- Which rows are meant. -/
inductive Criterion where
  | comparison (c : Comparison)
  | group (kind : Combinator) (members : List Criterion)

namespace Criterion

/-- The comparison of a field with a value. -/
def compare (field : String) (operator : Operator) (value : Value) : Criterion :=
  .comparison ⟨field, operator, value⟩

mutual

/-- The number of comparisons in a criterion. -/
def leafCount : Criterion → Nat
  | .comparison _ => 1
  | .group _ members => leafCountAll members

/-- The number of comparisons in a list of criteria. -/
def leafCountAll : List Criterion → Nat
  | [] => 0
  | c :: rest => leafCount c + leafCountAll rest

end

mutual

/-- The comparisons of a criterion from left to right. -/
def comparisons : Criterion → List Comparison
  | .comparison c => [c]
  | .group _ members => comparisonsAll members

/-- The comparisons of a list of criteria from left to right. -/
def comparisonsAll : List Criterion → List Comparison
  | [] => []
  | c :: rest => comparisons c ++ comparisonsAll rest

end

end Criterion

end TableGateway
