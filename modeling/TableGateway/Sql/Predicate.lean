import TableGateway.Cell.Write
import TableGateway.Sql.Error
import TableGateway.Sql.Text

/-!
# Predicates

`Predicate.ofCriteria` turns criteria into the text of a condition and the values bound in it.
Text and values come from one walk from left to right, so the n-th placeholder belongs to the n-th
value.  Groups inside others stand in parentheses; the outermost one needs none.
-/

namespace TableGateway

/-- A condition with its bound values.  Without text it asks for nothing. -/
structure Predicate where
  text : SqlText
  params : List Cell
  deriving DecidableEq, Repr

/-- The SQL token of an operator. -/
def Operator.token : Operator → String
  | .eq => "="
  | .ne => "<>"
  | .gt => ">"
  | .lt => "<"
  | .gte => ">="
  | .lte => "<="
  | .like => "LIKE"

/-- The value that a comparison binds. -/
def Comparison.param (c : Comparison) : Cell :=
  match c.operator with
  | .like => c.value.likePattern.toCell
  | _ => c.value.toCell

/-- The text of a comparison. -/
def Comparison.text (c : Comparison) : SqlText :=
  [.name c.field, .verbatim (" " ++ c.operator.token ++ " "), .placeholder]

namespace Predicate

/-- The predicate that asks for nothing. -/
def empty : Predicate := ⟨[], []⟩

/-- The predicate of a single comparison. -/
def ofComparison (c : Comparison) : Predicate :=
  ⟨c.text, [c.param]⟩

/-- Predicates combined to one. -/
def combine (kind : Combinator) (parts : List Predicate) : Predicate :=
  ⟨SqlText.join (" " ++ kind.keyword ++ " ") (parts.map (·.text)), parts.flatMap (·.params)⟩

/-- A predicate in parentheses. -/
def parenthesized (p : Predicate) : Predicate :=
  ⟨.verbatim "(" :: p.text ++ [.verbatim ")"], p.params⟩

mutual

/-- The predicate of a criterion inside a group. -/
def inner : Criterion → Except CompileError Predicate
  | .comparison c => .ok (ofComparison c)
  | .group kind [] => .error (.emptyGroup kind)
  | .group kind (member :: rest) => do
    let parts ← innerAll (member :: rest)
    .ok (combine kind parts).parenthesized

/-- The predicates of the members of a group, in their order. -/
def innerAll : List Criterion → Except CompileError (List Predicate)
  | [] => .ok []
  | c :: rest => do
    let part ← inner c
    let parts ← innerAll rest
    .ok (part :: parts)

end

/-- The predicate of criteria.  Neither no criteria nor an outermost group without members asks for
anything. -/
def ofCriteria : Option Criterion → Except CompileError Predicate
  | none => .ok empty
  | some (.comparison c) => .ok (ofComparison c)
  | some (.group _ []) => .ok empty
  | some (.group kind (member :: rest)) => do
    let parts ← innerAll (member :: rest)
    .ok (combine kind parts)

/-- The clause that restricts a statement to the predicate. -/
def whereClause (p : Predicate) : SqlText :=
  if p.text.isEmpty then [] else .verbatim " WHERE " :: p.text

end Predicate

end TableGateway
