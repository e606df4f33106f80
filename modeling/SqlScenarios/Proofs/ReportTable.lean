import SqlScenarios.Proofs.Expansion
import SqlScenarios.Proofs.TableReading

/-!
# The table of scenarios

The table of scenarios is found in a report by its header, and it ends at the first empty line
below.  Of the report for generated scenarios it has one row for each, which is read as what
the scenario says.
-/

namespace SqlScenarios

/-! ## Finding the table -/

/-- The header of the table of scenarios. -/
def scenarioHeader : String := "| ID | Type | Criticality | Description | Expected Result |"

/-- The rows of the table of scenarios in a report.  They start below the header and the rule
under it. -/
def scenarioRows (report : String) : List (List Char) :=
  (((lines report.toList).dropWhile (· ≠ scenarioHeader.toList)).drop 2).takeWhile (· ≠ [])

/-! ## Lines of a report -/

/-- The counts in the table of counts, by their names. -/
def Summary.counts (summary : Summary) : List (String × Nat) :=
  [("Filters", summary.filterCount), ("Joins", summary.joinCount),
    ("Aggregates", summary.aggregateCount), ("Having", summary.havingCount),
    ("Scenarios", summary.scenarioCount)]

/-- The row of a count. -/
def countRow (count : String × Nat) : String := tableRow [count.1, toString count.2]

namespace Output

/-- The pieces of a report above the table of scenarios. -/
def upperLines (output : Output) : List String :=
  ["# sql2tests Scenario Report", "", "## Extraction Summary", "", "| Category | Count |",
    "|----------|-------|"] ++ output.summary.counts.map countRow ++ ["", "## Scenarios", ""]

/-- The pieces of the table of scenarios, if it has any rows. -/
def tableLines (output : Output) : List String :=
  scenarioHeader :: "|----|------|-------------|-------------|-----------------|" ::
    output.scenarios.map Scenario.reportRow

theorem reportLines_eq {output : Output} (nonempty : output.scenarios ≠ []) :
    output.reportLines =
      output.upperLines ++ output.tableLines ++ supplementLines output.supplement := by
  have table : scenarioLines output.scenarios = output.tableLines := by
    rw [tableLines]
    cases scenarios : output.scenarios with
    | nil => exact absurd scenarios nonempty
    | cons scenario others => rfl
  rw [reportLines, table]
  rfl

theorem toList_report (output : Output) :
    output.report.toList = (output.reportLines.map String.toList).flatMap (· ++ ['\n']) := by
  simp [report, String.toList_join, List.flatMap_map]

end Output

theorem Summary.plain_counts (summary : Summary) :
    ∀ count ∈ summary.counts, Plain count.1.toList := by
  simp only [counts, List.forall_mem_cons]
  decide

theorem unbroken_countRow {count : String × Nat} (plain : Plain count.1.toList) :
    Unbroken (countRow count).toList := by
  apply unbroken_tableRow
  simp only [List.forall_mem_cons]
  exact ⟨plain.unbroken, (Plain.toString count.2).unbroken, by simp⟩

theorem readRow?_scenarioHeader :
    readRow? scenarioHeader.toList =
      some ["ID", "Type", "Criticality", "Description", "Expected Result"] := by
  rfl

/-- The row of a count is read as two texts, and the header as five. -/
theorem countRow_ne_scenarioHeader {count : String × Nat} (plain : Plain count.1.toList) :
    (countRow count).toList ≠ scenarioHeader.toList := by
  intro same
  have read : readRow? (tableRow ([count.1, toString count.2].map escapeCell)).toList =
      some ([count.1, toString count.2].map markBreaks) := readRow?_escaped (by simp)
  rw [List.map_cons, List.map_cons, List.map_nil, plain.escapeCell_eq,
    (Plain.toString count.2).escapeCell_eq, ← countRow, same, readRow?_scenarioHeader] at read
  simp at read

namespace Output

/-- Nothing above the table of scenarios is its header or breaks a line. -/
theorem upperLines_spec (output : Output) :
    ∀ line ∈ output.upperLines,
      line.toList ≠ scenarioHeader.toList ∧ Unbroken line.toList := by
  rw [upperLines, List.forall_mem_append, List.forall_mem_append, List.forall_mem_map]
  refine ⟨⟨by decide, ?_⟩, by decide⟩
  intro count member
  have plain := output.summary.plain_counts count member
  exact ⟨countRow_ne_scenarioHeader plain, unbroken_countRow plain⟩

/-- The lines of a report in which the row of each scenario stays on one line.  An empty line
comes after the table, in front of the supplement or at the end. -/
theorem exists_lines_report {output : Output} (nonempty : output.scenarios ≠ [])
    (unbroken : ∀ scenario ∈ output.scenarios, Unbroken scenario.reportRow.toList) :
    ∃ rest, lines output.report.toList =
      output.upperLines.map String.toList ++ output.tableLines.map String.toList ++
        [] :: rest := by
  have whole : ∀ piece ∈ (output.upperLines ++ output.tableLines).map String.toList,
      Unbroken piece := by
    rw [List.forall_mem_map, List.forall_mem_append]
    refine ⟨fun line member => (output.upperLines_spec line member).2, ?_⟩
    rw [tableLines, List.forall_mem_cons, List.forall_mem_cons, List.forall_mem_map]
    exact ⟨by decide, by decide, unbroken⟩
  have split : output.report.toList =
      ((output.upperLines ++ output.tableLines).map String.toList).flatMap (· ++ ['\n']) ++
        ((supplementLines output.supplement).map String.toList).flatMap (· ++ ['\n']) := by
    rw [toList_report, reportLines_eq nonempty, List.map_append, List.flatMap_append]
  rw [split, lines_flatMap_append whole, List.map_append]
  cases output.supplement with
  -- What follows the last line break of a text is a line, too.
  | none => exact ⟨[], rfl⟩
  | some text =>
      have emptyLine := lines_append_newline .nil
      exact ⟨_, congrArg _ (emptyLine _)⟩

/-- If the row of each scenario stays on one line, these lines are the rows of the table. -/
theorem scenarioRows_report {output : Output} (nonempty : output.scenarios ≠ [])
    (unbroken : ∀ scenario ∈ output.scenarios, Unbroken scenario.reportRow.toList) :
    scenarioRows output.report =
      output.scenarios.map fun scenario => scenario.reportRow.toList := by
  obtain ⟨rest, found⟩ := exists_lines_report nonempty unbroken
  have above : ∀ line ∈ output.upperLines.map String.toList,
      decide (line ≠ scenarioHeader.toList) = true := by
    rw [List.forall_mem_map]
    exact fun line member => decide_eq_true (output.upperLines_spec line member).1
  have filled : ∀ row ∈ (output.scenarios.map Scenario.reportRow).map String.toList,
      decide (row ≠ []) = true := by
    rw [List.forall_mem_map, List.forall_mem_map]
    intro scenario _
    rw [Scenario.reportRow, toList_tableRow (by simp)]
    rfl
  rw [scenarioRows, found, List.append_assoc, List.dropWhile_append_of_pos above, tableLines,
    List.map_cons, List.map_cons, List.cons_append, List.dropWhile_cons_of_neg (by simp),
    List.cons_append, List.drop_succ_cons, List.drop_one, List.tail_cons,
    List.takeWhile_append_of_pos filled, List.takeWhile_cons_of_neg (by simp), List.append_nil,
    List.map_map]
  rfl

end Output

/-! ## Reading the table -/

theorem ScenarioIds.plain_idText (number : Nat) : Plain (idText number).toList := by
  rw [idText, String.toList_append]
  exact .append (by decide) (.toString number)

theorem ScenarioKind.plain_text (kind : ScenarioKind) : Plain kind.text.toList := by
  cases kind <;> decide

theorem Criticality.plain_text (criticality : Criticality) :
    Plain criticality.text.toList := by
  cases criticality <;> decide

namespace Scenario

/-- The texts in the row of a scenario that come after its number. -/
def otherTexts (scenario : Scenario) : List String :=
  [scenario.kind.text, scenario.criticality.text, scenario.description, scenario.expectedResult]

/-- All texts of a row are as if escaped, but for the number. -/
theorem reportRow_eq_cons (scenario : Scenario) :
    scenario.reportRow = tableRow (scenario.id :: scenario.otherTexts.map escapeCell) := by
  simp only [otherTexts, List.map_cons, List.map_nil, scenario.kind.plain_text.escapeCell_eq,
    scenario.criticality.plain_text.escapeCell_eq]
  rfl

/-- The row of a scenario stays on one line exactly if its number does. -/
theorem unbroken_reportRow_iff {scenario : Scenario} :
    Unbroken scenario.reportRow.toList ↔ Unbroken scenario.id.toList := by
  rw [reportRow_eq_cons, unbroken_tableRow_iff, List.forall_mem_cons, List.forall_mem_map]
  constructor
  · intro unbroken
    exact unbroken.1
  · intro unbroken
    exact ⟨unbroken, fun text _ => unbroken_escapeCell text⟩

/-- The texts in the row of a scenario. -/
def rowTexts (scenario : Scenario) : List String :=
  [scenario.id, scenario.kind.text, scenario.criticality.text, scenario.description,
    scenario.expectedResult]

/-- A plain number does not need to be escaped. -/
theorem reportRow_eq {scenario : Scenario} (plain : Plain scenario.id.toList) :
    scenario.reportRow = tableRow (scenario.rowTexts.map escapeCell) := by
  rw [reportRow_eq_cons]
  simp only [rowTexts, otherTexts, List.map_cons, List.map_nil, plain.escapeCell_eq]

theorem unbroken_reportRow {scenario : Scenario} (plain : Plain scenario.id.toList) :
    Unbroken scenario.reportRow.toList :=
  unbroken_reportRow_iff.mpr plain.unbroken

theorem readRow?_reportRow {scenario : Scenario} (plain : Plain scenario.id.toList) :
    readRow? scenario.reportRow.toList =
      some [scenario.id, scenario.kind.text, scenario.criticality.text,
        markBreaks scenario.description, markBreaks scenario.expectedResult] := by
  rw [reportRow_eq plain, readRow?_escaped (by simp [rowTexts])]
  simp only [rowTexts, List.map_cons, List.map_nil, plain.markBreaks_eq,
    scenario.kind.plain_text.markBreaks_eq, scenario.criticality.plain_text.markBreaks_eq]

end Scenario

theorem Strategy.plain_id_of_generate {strategy : Strategy} {model : QueryModel}
    {scenarios : List Scenario} (generated : strategy.generate model = .ok scenarios) :
    ∀ scenario ∈ scenarios, Plain scenario.id.toList := by
  obtain ⟨-, rfl⟩ := generate_eq_ok_iff.mp generated
  intro scenario member
  have numbered : scenario.id ∈ (ScenarioIds.fresh.label (strategy.drafts model)).1.map
      Scenario.id := List.mem_map_of_mem member
  rw [ScenarioIds.map_id_label] at numbered
  obtain ⟨number, -, same⟩ := List.mem_map.mp numbered
  rw [← same]
  exact ScenarioIds.plain_idText number

/-- The table of the scenarios that are generated for a model has one row for each of them, in
their order, and every row is read as the five texts of its scenario. -/
theorem report_table_read_back (strategy : Strategy) (model : QueryModel)
    (scenarios : List Scenario) (supplement : Option String)
    (generated : strategy.generate model = .ok scenarios) (nonempty : scenarios ≠ []) :
    (scenarioRows (Output.of model scenarios supplement).report).map readRow? =
      scenarios.map fun scenario =>
        some [scenario.id, scenario.kind.text, scenario.criticality.text,
          markBreaks scenario.description, markBreaks scenario.expectedResult] := by
  have plain := Strategy.plain_id_of_generate generated
  have unbroken : ∀ scenario ∈ scenarios, Unbroken scenario.reportRow.toList :=
    fun scenario member => Scenario.unbroken_reportRow (plain scenario member)
  rw [Output.scenarioRows_report nonempty unbroken, List.map_map]
  apply List.map_congr_left
  intro scenario member
  rw [Function.comp_apply]
  exact Scenario.readRow?_reportRow (plain scenario member)

theorem report_table_read_back_awkward :
    let model : QueryModel := { filters := [⟨"a\\|b", .equal, ["'x\r\ny\r\\'"]⟩] }
    let scenarios : List Scenario :=
      [⟨"TC_1", "a\\|b = 'x\r\ny\r\\'", "Records should be returned", .positive, .medium⟩,
        ⟨"TC_2", "a\\|b != 'x\r\ny\r\\'", "No records should be returned", .negative, .medium⟩,
        ⟨"TC_3", "a\\|b IS NULL", "System should handle NULL appropriately", .negative,
          .medium⟩]
    Strategy.operatorTable.generate model = .ok scenarios ∧ scenarios ≠ [] ∧
      (scenarioRows (Output.of model scenarios (some scenarioHeader)).report).map readRow? =
        [some ["TC_1", "POSITIVE", "MEDIUM", "a\\|b = 'x<br>y<br>\\'",
            "Records should be returned"],
          some ["TC_2", "NEGATIVE", "MEDIUM", "a\\|b != 'x<br>y<br>\\'",
            "No records should be returned"],
          some ["TC_3", "NEGATIVE", "MEDIUM", "a\\|b IS NULL",
            "System should handle NULL appropriately"]] := by
  intro model scenarios
  have generated : Strategy.operatorTable.generate model = .ok scenarios := by rfl
  have nonempty : scenarios ≠ [] := by simp [scenarios]
  refine ⟨generated, nonempty, ?_⟩
  rw [report_table_read_back .operatorTable model scenarios (some scenarioHeader) generated
    nonempty]
  rfl

end SqlScenarios
