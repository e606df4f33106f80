import SqlScenarios.Condition
import SqlScenarios.Scenario.Ids

/-!
# Scenarios by operator

Each known operator has a table of rows.  A row is a predicate on the column of the filter,
an intent and an expectation.  The kind of the scenario follows from the operator and the
intent, and its criticality from the kind.
-/

namespace SqlScenarios

/-- What the tested column is like in a row of a table. -/
inductive RowPredicate where
  | equal (value : String)
  | notEqual (value : String)
  | greater (value : String)
  | less (value : String)
  | between (low high : String)
  | isIn (values : List String)
  | notIn (values : List String)
  | isNull
  deriving DecidableEq, Repr

/-- The text of a predicate on a column. -/
def RowPredicate.text (column : String) : RowPredicate → String
  | equal value => column ++ " = " ++ value
  | notEqual value => column ++ " != " ++ value
  | greater value => column ++ " > " ++ value
  | less value => column ++ " < " ++ value
  | between low high => column ++ " BETWEEN " ++ low ++ " AND " ++ high
  | isIn values => column ++ " IN (" ++ String.intercalate ", " values ++ ")"
  | notIn values => column ++ " NOT IN (" ++ String.intercalate ", " values ++ ")"
  | isNull => column ++ " IS NULL"

/-- A row of the table of an operator. -/
structure OperatorRow where
  intent : TestIntent
  predicate : RowPredicate
  expectedResult : String
  deriving DecidableEq, Repr

namespace OperatorRow

/-- The row for a missing value, which every table has. -/
def missing : OperatorRow :=
  ⟨.nullCheck, .isNull, "System should handle NULL appropriately"⟩

/-- The rows of `=`. -/
def equality (value : String) : List OperatorRow :=
  [⟨.isMatch, .equal value, "Records should be returned"⟩,
    ⟨.notMatch, .notEqual value, "No records should be returned"⟩, missing]

/-- The rows of `>`. -/
def greaterThan (value : String) : List OperatorRow :=
  [⟨.isMatch, .greater value, "Records should be returned"⟩,
    ⟨.equal, .equal value, "Boundary condition validation"⟩,
    ⟨.less, .less value, "No records should be returned"⟩, missing]

/-- The rows of `BETWEEN`. -/
def range (low high : String) : List OperatorRow :=
  [⟨.isMatch, .between low high, "Records within range should be returned"⟩,
    ⟨.equal, .equal low, "Lower boundary validation"⟩,
    ⟨.equal, .equal high, "Upper boundary validation"⟩,
    ⟨.less, .less low, "Below range should not return records"⟩,
    ⟨.notMatch, .greater high, "Above range should not return records"⟩, missing]

/-- The rows of `IN`. -/
def membership (values : List String) : List OperatorRow :=
  [⟨.isMatch, .isIn values, "Records matching values should be returned"⟩,
    ⟨.notMatch, .notIn values, "Records outside list should not be returned"⟩, missing]

end OperatorRow

/-- The rows of a filter.  Only well-formed filters with one of the first four operators have
any. -/
def FilterCondition.rows (filter : FilterCondition) : List OperatorRow :=
  match filter.operator, filter.values with
  | .equal, [value] => OperatorRow.equality value
  | .greater, [value] => OperatorRow.greaterThan value
  | .between, [low, high] => OperatorRow.range low high
  | .isIn, _ :: _ => OperatorRow.membership filter.values
  | _, _ => []

/-- The kind of the scenarios of an operator with an intent. -/
def FilterOperator.kindOf (operator : FilterOperator) (intent : TestIntent) : ScenarioKind :=
  match operator, intent with
  | .equal, .isMatch | .greater, .isMatch | .between, .isMatch | .isIn, .isMatch => .positive
  | .greater, .equal | .between, .equal => .boundary
  | _, _ => .negative

/-- How grave the scenarios of a kind are. -/
def ScenarioKind.operatorCriticality : ScenarioKind → Criticality
  | boundary => .high
  | positive | negative => .medium

/-- The draft for a row of a filter. -/
def OperatorRow.draft (filter : FilterCondition) (row : OperatorRow) : Draft :=
  let kind := filter.operator.kindOf row.intent
  ⟨row.predicate.text filter.column, row.expectedResult, kind, kind.operatorCriticality⟩

/-- The drafts for a filter. -/
def FilterCondition.operatorDrafts (filter : FilterCondition) : List Draft :=
  filter.rows.map (OperatorRow.draft filter)

/-- The scenarios for a filter, numbered by a source; a malformed filter is refused, and takes
no number. -/
def FilterCondition.expand (filter : FilterCondition) (ids : ScenarioIds) :
    Except MalformedCondition (List Scenario × ScenarioIds) := do
  filter.check
  return ids.label filter.operatorDrafts

/-- The scenarios for filters, numbered by a source. -/
def expandFrom (ids : ScenarioIds) : List FilterCondition →
    Except MalformedCondition (List Scenario × ScenarioIds)
  | [] => return ([], ids)
  | filter :: filters => do
      let (first, middle) ← filter.expand ids
      let (rest, last) ← expandFrom middle filters
      return (first ++ rest, last)

/-- The scenarios for filters. -/
def expandFilters (filters : List FilterCondition) :
    Except MalformedCondition (List Scenario) :=
  Prod.fst <$> expandFrom .fresh filters

/-- The scenarios by operator for a model. -/
def QueryModel.operatorScenarios (model : QueryModel) :
    Except MalformedCondition (List Scenario) := expandFilters model.filters

end SqlScenarios
