import SqlScenarios.Condition
import SqlScenarios.Scenario.Ids

/-!
# Scenarios by category

Each condition gives two drafts, one for the rows that satisfy it and one for the others,
worded after the category of the condition.  Filters come first, then joins, aggregates and
conditions on groups.
-/

namespace SqlScenarios

/-- The drafts for a filter. -/
def FilterCondition.categoryDrafts (filter : FilterCondition) : List Draft :=
  [⟨"Verify " ++ filter.column ++ " satisfies condition " ++ filter.operator.text,
      "Rows matching condition should be returned", .positive, .high⟩,
    ⟨"Verify rows not satisfying " ++ filter.column ++ " condition are excluded",
      "Non matching rows should not appear", .negative, .high⟩]

/-- The drafts for a join. -/
def JoinCondition.categoryDrafts (join : JoinCondition) : List Draft :=
  [⟨"Verify join between " ++ join.leftColumn ++ " and " ++ join.rightColumn,
      "Only matching rows across tables should be returned", .positive, .critical⟩,
    ⟨"Verify behavior when join condition between " ++ join.leftColumn ++ " and " ++
        join.rightColumn ++ " fails",
      "Rows without matching join should not appear", .negative, .high⟩]

/-- The drafts for an aggregate. -/
def AggregateCondition.categoryDrafts (aggregate : AggregateCondition) : List Draft :=
  [⟨"Verify " ++ aggregate.function ++ " aggregation on column " ++ aggregate.column,
      "Aggregation should compute correct value", .positive, .critical⟩,
    ⟨"Verify " ++ aggregate.function ++ " aggregation handles null values correctly on " ++
        aggregate.column,
      "Null values should not break aggregation logic", .boundary, .medium⟩]

/-- The text of a condition on groups. -/
def HavingCondition.text (having : HavingCondition) : String :=
  having.function ++ "(" ++ having.column ++ ") " ++ having.operator.text ++ " " ++ having.value

/-- The drafts for a condition on groups. -/
def HavingCondition.categoryDrafts (having : HavingCondition) : List Draft :=
  [⟨"Verify HAVING condition on " ++ having.text,
      "Only groups satisfying HAVING condition should appear", .positive, .critical⟩,
    ⟨"Verify groups not satisfying HAVING condition " ++ having.text ++ " are excluded",
      "Invalid groups should not be returned", .negative, .high⟩]

/-- The drafts for all conditions of a model. -/
def QueryModel.categoryDrafts (model : QueryModel) : List Draft :=
  model.filters.flatMap FilterCondition.categoryDrafts ++
    model.joins.flatMap JoinCondition.categoryDrafts ++
    model.aggregates.flatMap AggregateCondition.categoryDrafts ++
    model.havingConditions.flatMap HavingCondition.categoryDrafts

/-- The scenarios by category for a model; a malformed filter is refused. -/
def QueryModel.categoryScenarios (model : QueryModel) :
    Except MalformedCondition (List Scenario) := do
  model.filters.forM FilterCondition.check
  return (ScenarioIds.fresh.label model.categoryDrafts).1

end SqlScenarios
