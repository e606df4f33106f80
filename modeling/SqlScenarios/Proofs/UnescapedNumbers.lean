import SqlScenarios.Proofs.ReportTable

/-!
# Numbers that are not escaped

The row of a scenario escapes what the scenario says, but not its number.  Generated numbers need
no escape.  A scenario that is decoded or made by hand can have any text for its number, and then
the row stays one row of five cells exactly if that text has neither a line break nor a pipe that
no backslash hides.
-/

namespace SqlScenarios

/-! ## Cells and lines -/

/-- How many cells a row has between its first and its last pipe. -/
def cellCount (row : List Char) : Nat := (splitCells (betweenPipes row)).length

/-- Text in front of a space and a pipe adds its own cells.  The space is what a backslash at the
end of the text hides. -/
theorem length_splitCells_append (text rest : List Char) :
    (splitCells (text ++ ' ' :: '|' :: rest)).length =
      (splitCells text).length + (splitCells rest).length := by
  fun_induction splitCells text with
  | case1 => simp [splitCells, Nat.add_comm]
  | case2 text ih =>
      rw [List.cons_append, splitCells, List.length_cons, List.length_cons, ih]
      omega
  | case3 c text ih =>
      rw [List.cons_append, List.cons_append, splitCells, List.length_modifyHead,
        List.length_modifyHead, ih]
  | case4 c text pipe hides ih =>
      rw [List.length_modifyHead, ← ih, List.cons_append]
      by_cases backslash : c = '\\'
      · -- A backslash that hides nothing is the last character.
        cases text with
        | nil => simp [backslash, splitCells]
        | cons next text => exact (hides next text backslash rfl).elim
      · rw [splitCells, List.length_modifyHead]
        · exact pipe
        · exact fun _ _ same _ => backslash same

/-- No line of a text has a break. -/
theorem unbroken_of_mem_lines {line text : List Char} (member : line ∈ lines text) :
    Unbroken line := by
  fun_induction lines text generalizing line with
  | case1 =>
      rw [List.mem_singleton.mp member]
      exact .nil
  | case2 rest ih =>
      rcases List.mem_cons.mp member with rfl | below
      · exact .nil
      · exact ih below
  | case3 c rest _ breaks ih =>
      rcases List.mem_cons.mp member with rfl | below
      · exact .nil
      · exact ih below
  | case4 c rest _ unbroken ih =>
      cases found : lines rest with
      | nil => exact absurd found (lines_ne_nil rest)
      | cons first others =>
          rw [found, List.modifyHead_cons] at member
          rcases List.mem_cons.mp member with rfl | below
          · exact unbroken_cons_iff.mpr ⟨unbroken, ih (by rw [found]; exact List.mem_cons_self)⟩
          · exact ih (by rw [found]; exact List.mem_cons_of_mem _ below)

theorem unbroken_of_mem_scenarioRows {row : List Char} {report : String}
    (member : row ∈ scenarioRows report) : Unbroken row := by
  apply unbroken_of_mem_lines
  have below := List.mem_of_mem_drop (List.takeWhile_subset _ member)
  exact List.dropWhile_subset _ below

/-! ## Rows of scenarios -/

namespace Scenario

/-- The number has the cells that it splits into, and each of the other texts has one. -/
theorem cellCount_reportRow (scenario : Scenario) :
    cellCount scenario.reportRow.toList = (splitCells scenario.id.toList).length + 4 := by
  let others := (scenario.otherTexts.map escapeCell).map pad
  have whole : ∀ cell ∈ others, Sealed cell := by
    intro cell member
    rcases List.mem_map.mp member with ⟨escaped, inside, rfl⟩
    rcases List.mem_map.mp inside with ⟨text, _, rfl⟩
    exact (Sealed.escapeCell text).pad
  have nonempty : others ≠ [] := by simp [others, otherTexts]
  have row : betweenPipes scenario.reportRow.toList =
      ' ' :: (scenario.id.toList ++ ' ' :: '|' :: ['|'].intercalate others) := by
    rw [reportRow_eq_cons, toList_tableRow (by simp), betweenPipes_append, List.map_cons,
      List.intercalate_cons_of_ne_nil nonempty]
    simp [pad]
  calc cellCount scenario.reportRow.toList
      = (splitCells (scenario.id.toList ++ ' ' :: '|' :: ['|'].intercalate others)).length := by
        rw [cellCount, row, splitCells, List.length_modifyHead]
        all_goals simp
    _ = (splitCells scenario.id.toList).length + others.length := by
        rw [length_splitCells_append, splitCells_intercalate nonempty whole]
    _ = (splitCells scenario.id.toList).length + 4 := rfl

end Scenario

/-! ## The table of any output -/

/-- The table of scenarios has one row of five cells for each scenario, which is the row of the
scenario, exactly if no number has a line break or a pipe that no backslash hides.  What the
scenarios say does not matter. -/
theorem scenarioRows_whole_iff (output : Output) (nonempty : output.scenarios ≠ []) :
    (scenarioRows output.report =
        output.scenarios.map (fun scenario => scenario.reportRow.toList) ∧
      ∀ row ∈ scenarioRows output.report, cellCount row = 5) ↔
    ∀ scenario ∈ output.scenarios,
      Unbroken scenario.id.toList ∧ (splitCells scenario.id.toList).length = 1 := by
  constructor
  · intro whole scenario member
    have row : scenario.reportRow.toList ∈ scenarioRows output.report := by
      rw [whole.1]
      exact List.mem_map_of_mem member
    have cells := whole.2 _ row
    rw [scenario.cellCount_reportRow] at cells
    constructor
    · exact Scenario.unbroken_reportRow_iff.mp (unbroken_of_mem_scenarioRows row)
    · omega
  · intro harmless
    have unbroken : ∀ scenario ∈ output.scenarios, Unbroken scenario.reportRow.toList :=
      fun scenario member => Scenario.unbroken_reportRow_iff.mpr (harmless scenario member).1
    have rows := Output.scenarioRows_report nonempty unbroken
    refine ⟨rows, ?_⟩
    rw [rows, List.forall_mem_map]
    intro scenario member
    rw [scenario.cellCount_reportRow, (harmless scenario member).2]

theorem scenarioRows_whole_iff_awkward :
    let output := Output.of {}
      [⟨"a\\|b", "x|y\r\n| z\\", "\n\n## e", .positive, .low⟩, ⟨"\\", "", "", .negative, .high⟩]
      (some "| f |")
    output.scenarios ≠ [] ∧
      (scenarioRows output.report =
          output.scenarios.map (fun scenario => scenario.reportRow.toList) ∧
        ∀ row ∈ scenarioRows output.report, cellCount row = 5) := by
  intro output
  have nonempty : output.scenarios ≠ [] := by simp [output, Output.of]
  have harmless : ∀ scenario ∈ output.scenarios,
      Unbroken scenario.id.toList ∧ (splitCells scenario.id.toList).length = 1 := by
    decide +kernel
  exact ⟨nonempty, (scenarioRows_whole_iff output nonempty).mpr harmless⟩

/-- A pipe in a number opens a cell, a line break opens a row, and after an empty line there can
be another section. -/
theorem number_opens_cell_row_section :
    let output (number : String) := Output.of {} [⟨number, "d", "e", .positive, .low⟩] none
    (scenarioRows (output "a|b").report).map cellCount = [6] ∧
      (scenarioRows (output "a\n| b").report).length = 2 ∧
      "## b".toList ∈ lines (output "a\n\n## b\n").report.toList := by
  intro output
  refine ⟨?_, ?_, ?_⟩
  · rw [Output.scenarioRows_report (by simp [output, Output.of]) (by decide +kernel)]
    rfl
  · rw [scenarioRows, Output.toList_report]
    decide +kernel
  · rw [Output.toList_report]
    decide +kernel

end SqlScenarios
