import SqlScenarios.Condition
import SqlScenarios.Scenario
import SqlScenarios.Json.Printer

/-!
# Outputs

An output bundles scenarios with the counts of what they were made from, and with the text
of a completion service if one was asked.
-/

namespace SqlScenarios

/-- How many conditions of each category there are, and how many scenarios. -/
structure Summary where
  joinCount : Nat
  filterCount : Nat
  aggregateCount : Nat
  havingCount : Nat
  scenarioCount : Nat
  deriving DecidableEq, Repr

/-- Count the conditions of a model and the scenarios made from it. -/
def Summary.of (model : QueryModel) (scenarios : List Scenario) : Summary where
  joinCount := model.joins.length
  filterCount := model.filters.length
  aggregateCount := model.aggregates.length
  havingCount := model.havingConditions.length
  scenarioCount := scenarios.length

/-- The members of the summary of an output. -/
def Summary.toJson (summary : Summary) : Json :=
  .object
    [("joinCount", .integer summary.joinCount),
      ("filterCount", .integer summary.filterCount),
      ("aggregateCount", .integer summary.aggregateCount),
      ("havingCount", .integer summary.havingCount),
      ("generatedScenarios", .integer summary.scenarioCount)]

/-- The members of a scenario. -/
def Scenario.toJson (scenario : Scenario) : Json :=
  .object
    [("id", .string scenario.id),
      ("description", .string scenario.description),
      ("expectedResult", .string scenario.expectedResult),
      ("scenarioType", .string scenario.kind.text),
      ("criticality", .string scenario.criticality.text)]

/-- Scenarios with their summary and perhaps a supplement of free text. -/
structure Output where
  scenarios : List Scenario
  summary : Summary
  supplement : Option String
  deriving DecidableEq, Repr

namespace Output

/-- The output for scenarios made from a model. -/
def of (model : QueryModel) (scenarios : List Scenario) (supplement : Option String) : Output :=
  ⟨scenarios, .of model scenarios, supplement⟩

/-- The members of an output.  The scenarios always come from rules, which is what the first
member says. -/
def toJson (output : Output) : Json :=
  .object <|
    [("standardized", .boolean true),
      ("scenarios", .array (output.scenarios.map Scenario.toJson)),
      ("validation", output.summary.toJson),
      ("aiUsed", .boolean output.supplement.isSome)] ++
    (output.supplement.map fun text => ("aiSupplement", Json.string text)).toList

/-- The JSON text of an output. -/
def json (output : Output) : String := output.toJson.pretty

end Output

end SqlScenarios
