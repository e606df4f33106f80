import SqlScenarios.Condition
import SqlScenarios.Output
import SqlScenarios.Record.Decoding

/-!
# Records

How conditions, scenarios and the enumerations in them are written as JSON values, and how
they are read back.
-/

namespace SqlScenarios

/-! ## Enumerations -/

/-- Decode an operator of a filter. -/
def FilterOperator.decode : Decoder FilterOperator := fun value =>
  FilterOperator.ofText <$> Decoder.text value

/-- Encode an operator of a filter. -/
def FilterOperator.toJson (operator : FilterOperator) : Json := .string operator.text

/-- Decode an operator on groups. -/
def HavingOperator.decode : Decoder HavingOperator :=
  Decoder.variant ([.greater, .equal].map fun operator => (operator.text, operator))

/-- Encode an operator on groups. -/
def HavingOperator.toJson (operator : HavingOperator) : Json := .string operator.text

/-- Decode a kind of scenarios. -/
def ScenarioKind.decode : Decoder ScenarioKind :=
  Decoder.variant ([.positive, .negative, .boundary].map fun kind => (kind.text, kind))

/-- Encode a kind of scenarios. -/
def ScenarioKind.toJson (kind : ScenarioKind) : Json := .string kind.text

/-- Decode a criticality. -/
def Criticality.decode : Decoder Criticality :=
  Decoder.variant ([.low, .medium, .high, .critical].map fun level => (level.text, level))

/-- Encode a criticality. -/
def Criticality.toJson (criticality : Criticality) : Json := .string criticality.text

/-- Decode an intent. -/
def TestIntent.decode : Decoder TestIntent :=
  Decoder.variant
    ([.isMatch, .notMatch, .equal, .less, .nullCheck].map fun intent => (intent.text, intent))

/-- Encode an intent. -/
def TestIntent.toJson (intent : TestIntent) : Json := .string intent.text

/-! ## Conditions -/

/-- Decode a filter. -/
def FilterCondition.decode : Decoder FilterCondition :=
  ((((Fields.pure FilterCondition.mk).field "column" Decoder.text).field "operator"
    FilterOperator.decode).field "values" (Decoder.list Decoder.text)).decode "FilterCondition"

/-- Encode a filter. -/
def FilterCondition.toJson (filter : FilterCondition) : Json :=
  .object
    [("column", .string filter.column), ("operator", filter.operator.toJson),
      ("values", .array (filter.values.map Json.string))]

/-- Decode a join. -/
def JoinCondition.decode : Decoder JoinCondition :=
  (((Fields.pure JoinCondition.mk).field "leftColumn" Decoder.text).field "rightColumn"
    Decoder.text).decode "JoinCondition"

/-- Encode a join. -/
def JoinCondition.toJson (join : JoinCondition) : Json :=
  .object [("leftColumn", .string join.leftColumn), ("rightColumn", .string join.rightColumn)]

/-- Decode an aggregate. -/
def AggregateCondition.decode : Decoder AggregateCondition :=
  (((Fields.pure AggregateCondition.mk).field "function" Decoder.text).field "column"
    Decoder.text).decode "AggregateCondition"

/-- Encode an aggregate. -/
def AggregateCondition.toJson (aggregate : AggregateCondition) : Json :=
  .object [("function", .string aggregate.function), ("column", .string aggregate.column)]

/-- Decode a condition on groups. -/
def HavingCondition.decode : Decoder HavingCondition :=
  (((((Fields.pure HavingCondition.mk).field "function" Decoder.text).field "column"
    Decoder.text).field "operator" HavingOperator.decode).field "value"
    Decoder.text).decode "HavingCondition"

/-- Encode a condition on groups. -/
def HavingCondition.toJson (having : HavingCondition) : Json :=
  .object
    [("function", .string having.function), ("column", .string having.column),
      ("operator", having.operator.toJson), ("value", .string having.value)]

/-- Decode a branch of a `CASE`. -/
def CaseCondition.decode : Decoder CaseCondition :=
  (((Fields.pure CaseCondition.mk).field "condition" Decoder.text).field "result"
    Decoder.text).decode "CaseCondition"

/-- Encode a branch of a `CASE`. -/
def CaseCondition.toJson (branch : CaseCondition) : Json :=
  .object [("condition", .string branch.condition), ("result", .string branch.result)]

/-! ## Scenarios -/

/-- Decode a scenario. -/
def Scenario.decode : Decoder Scenario :=
  ((((((Fields.pure Scenario.mk).field "id" Decoder.text).field "description"
    Decoder.text).field "expectedResult" Decoder.text).field "scenarioType"
    ScenarioKind.decode).field "criticality" Criticality.decode).decode "Scenario"

/-! ## Models -/

/-- Encode a model. -/
def QueryModel.toJson (model : QueryModel) : Json :=
  .object
    [("joins", .array (model.joins.map JoinCondition.toJson)),
      ("filters", .array (model.filters.map FilterCondition.toJson)),
      ("aggregates", .array (model.aggregates.map AggregateCondition.toJson)),
      ("caseConditions", .array (model.caseConditions.map CaseCondition.toJson)),
      ("havingConditions", .array (model.havingConditions.map HavingCondition.toJson))]

end SqlScenarios
