import SqlScenarios.Condition
import SqlScenarios.Extraction.Leaves
import SqlScenarios.Sql.Call

/-!
# Conditions of a block

Filters come from the leaves of the filter, comparisons of groups from the leaves of the
condition on groups, joins from the equalities on which tables are joined, and aggregates
from the calls among the listed values.  Everything else is passed over; only a list of
operands without any is refused.
-/

namespace SqlScenarios

open Sql

/-! ## Filters -/

/-- Add the filter that a leaf is. -/
def addFilter : Predicate → Collector FilterCondition Unit
  | .equality left right => .add ⟨left.toSql, .equal, [right.toSql]⟩
  | .greaterThan left right => .add ⟨left.toSql, .greater, [right.toSql]⟩
  | .between subject low high => .add ⟨subject.toSql, .between, [low.toSql, high.toSql]⟩
  | .inList subject [] => throw (.emptyList subject.toSql)
  | .inList subject items => .add ⟨subject.toSql, .isIn, items.map Expr.toSql⟩
  | .inQuery subject query => .add ⟨subject.toSql, .inQuery, [query.toSql]⟩
  | .conjunction _ _ | .disjunction _ _ | .other _ => pure ()

/-- Add the filters of a condition. -/
def addFilters (condition : Expr) : Collector FilterCondition Unit :=
  forLeaves addFilter condition

/-! ## Conditions on groups -/

/-- The condition on groups that a comparison is, if it compares a call that has an argument
with a literal. -/
def havingCondition? (operator : HavingOperator) (left right : Expr) :
    Option HavingCondition := do
  let call ← left.call?
  guard right.isLiteral
  let column ← call.firstArgument?
  return ⟨call.functionName, column, operator, right.toSql⟩

/-- Add the condition on groups that a leaf is. -/
def addHaving : Predicate → Collector HavingCondition Unit
  | .greaterThan left right => (havingCondition? .greater left right).forM .add
  | .equality left right => (havingCondition? .equal left right).forM .add
  | _ => pure ()

/-- Add the conditions on groups of a condition. -/
def addHavings (condition : Expr) : Collector HavingCondition Unit :=
  forLeaves addHaving condition

/-! ## Joins -/

/-- Whether a kind of join matches rows by a condition and keeps the columns of both
tables. -/
def Sql.JoinKind.matchesRows : JoinKind → Bool
  | .join | .inner | .left | .leftOuter | .right | .rightOuter | .full => true
  | _ => false

/-- The columns on which a join matches rows, if it asks for a single equality. -/
def Sql.Join.condition? : Join → Option JoinCondition
  | ⟨_, kind, _, _, .on condition⟩ =>
      match kind.matchesRows, condition.predicate with
      | true, .equality left right => some ⟨left.toSql, right.toSql⟩
      | _, _ => none
  | _ => none

/-- The join conditions of a block.  Joins in parentheses are not looked into. -/
def Sql.Block.joinConditions (block : Block) : List JoinCondition :=
  block.sources.flatMap fun source => source.joins.filterMap Join.condition?

/-! ## Aggregates -/

/-- The call that an item of a block is, with its first argument. -/
def Sql.Item.aggregate? : Item → Option AggregateCondition
  | .value expr _ => do
      let call ← expr.call?
      let column ← call.firstArgument?
      return ⟨call.functionName, column⟩
  | .other _ => none

/-- The calls with arguments among the values of a block. -/
def Sql.Block.aggregates (block : Block) : List AggregateCondition :=
  block.projection.filterMap Item.aggregate?

end SqlScenarios
