import SqlScenarios.Condition.Filter

/-!
# Conditions

What a query asks of its rows, as far as scenarios are made for it, and the model that holds
all conditions of a query.  Expressions are kept as they are written.
-/

namespace SqlScenarios

/-- Two columns that joined rows have in common. -/
structure JoinCondition where
  leftColumn : String
  rightColumn : String
  deriving DecidableEq, Repr

/-- A call among the values of a query, with its first argument. -/
structure AggregateCondition where
  function : String
  column : String
  deriving DecidableEq, Repr

/-- How a condition on groups compares. -/
inductive HavingOperator where
  | greater
  | equal
  deriving DecidableEq, Repr

/-- The text of an operator on groups. -/
def HavingOperator.text : HavingOperator → String
  | greater => ">"
  | equal => "="

/-- A comparison of a call with a literal in the condition on groups. -/
structure HavingCondition where
  function : String
  column : String
  operator : HavingOperator
  value : String
  deriving DecidableEq, Repr

/-- A branch of a `CASE`. -/
structure CaseCondition where
  condition : String
  result : String
  deriving DecidableEq, Repr

/-- All conditions of a query, each list in the order of the query. -/
structure QueryModel where
  joins : List JoinCondition := []
  filters : List FilterCondition := []
  aggregates : List AggregateCondition := []
  caseConditions : List CaseCondition := []
  havingConditions : List HavingCondition := []
  deriving DecidableEq, Repr

/-- Whether a model holds no conditions. -/
def QueryModel.isEmpty (model : QueryModel) : Bool :=
  model.joins.isEmpty && model.filters.isEmpty && model.aggregates.isEmpty &&
    model.caseConditions.isEmpty && model.havingConditions.isEmpty

end SqlScenarios
