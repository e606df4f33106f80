import SqlScenarios.Output
import SqlScenarios.Text.Blank

/-!
# Reports

The report of an output is a Markdown text: a table of counts, a table of scenarios and the
supplement.  In the cells that hold texts of the query, whatever would end a cell or a row
is escaped.
-/

namespace SqlScenarios

/-! ## Cells -/

/-- What stands for a line break inside a cell. -/
def lineBreakMark : List Char := ['<', 'b', 'r', '>']

/-- The characters of a text inside a cell.  A carriage return and a line feed together are
one line break. -/
def escapeCellChars : List Char → List Char
  | [] => []
  | '\r' :: '\n' :: rest => lineBreakMark ++ escapeCellChars rest
  | c :: rest =>
      (if c = '\\' then ['\\', '\\']
        else if c = '|' then ['\\', '|']
        else if c = '\r' ∨ c = '\n' then lineBreakMark
        else [c]) ++ escapeCellChars rest

/-- A text inside a cell. -/
def escapeCell (text : String) : String := String.ofList (escapeCellChars text.toList)

/-- A row of a table. -/
def tableRow (cells : List String) : String :=
  String.join (cells.map fun cell => "| " ++ cell ++ " ") ++ "|"

/-! ## Parts of a report -/

/-- The row of a scenario. -/
def Scenario.reportRow (scenario : Scenario) : String :=
  tableRow
    [scenario.id, scenario.kind.text, scenario.criticality.text, escapeCell scenario.description,
      escapeCell scenario.expectedResult]

/-- The table of counts. -/
def Summary.reportLines (summary : Summary) : List String :=
  ["## Extraction Summary", "", "| Category | Count |", "|----------|-------|",
    tableRow ["Filters", toString summary.filterCount],
    tableRow ["Joins", toString summary.joinCount],
    tableRow ["Aggregates", toString summary.aggregateCount],
    tableRow ["Having", toString summary.havingCount],
    tableRow ["Scenarios", toString summary.scenarioCount]]

/-- The table of scenarios. -/
def scenarioLines : List Scenario → List String
  | [] => ["_No scenarios generated._"]
  | scenarios =>
      "| ID | Type | Criticality | Description | Expected Result |" ::
        "|----|------|-------------|-------------|-----------------|" ::
        scenarios.map Scenario.reportRow

/-- The section of the supplement. -/
def supplementLines : Option String → List String
  | none => []
  | some text => ["", "## AI Supplement", "", Text.trimEnd text]

namespace Output

/-- The pieces of a report, each of which ends with a line break. -/
def reportLines (output : Output) : List String :=
  ["# sql2tests Scenario Report", ""] ++ output.summary.reportLines ++
    ["", "## Scenarios", ""] ++ scenarioLines output.scenarios ++
    supplementLines output.supplement

/-- The report of an output. -/
def report (output : Output) : String :=
  String.join (output.reportLines.map (· ++ "\n"))

end Output

end SqlScenarios
