import Mathlib.Data.List.Forall2
import SqlScenarios.Proofs.Numbering
import SqlScenarios.Proofs.OperandCounts

/-!
# Scenarios by category

The strategy by category makes two scenarios for each condition, which do not depend on what
else a model holds: apart from their numbers, the scenarios of a model are those of the models
that hold one of its conditions each, one after the other.
-/

namespace SqlScenarios

open Sql

/-! ## Models with one condition -/

namespace QueryModel

/-- The models that hold one condition of a model each: first those with a filter, then those
with a join, with an aggregate and with a condition on groups. -/
def singles (model : QueryModel) : List QueryModel :=
  model.filters.map (fun filter => { filters := [filter] }) ++
    model.joins.map (fun join => { joins := [join] }) ++
    model.aggregates.map (fun aggregate => { aggregates := [aggregate] }) ++
    model.havingConditions.map (fun having => { havingConditions := [having] })

theorem categoryDrafts_eq_flatMap_singles (model : QueryModel) :
    model.categoryDrafts = model.singles.flatMap categoryDrafts := by
  rw [singles, List.flatMap_append, List.flatMap_append, List.flatMap_append,
    List.flatMap_map, List.flatMap_map, List.flatMap_map, List.flatMap_map]
  simp [categoryDrafts]

theorem length_categoryDrafts (model : QueryModel) :
    model.categoryDrafts.length = 2 * (model.filters.length + model.joins.length +
      model.aggregates.length + model.havingConditions.length) := by
  simp only [categoryDrafts, List.length_append, List.length_flatMap,
    FilterCondition.categoryDrafts, JoinCondition.categoryDrafts,
    AggregateCondition.categoryDrafts, HavingCondition.categoryDrafts, List.length_cons,
    List.length_nil, List.map_const', List.sum_replicate_nat]
  omega

theorem isEmpty_iff_of_noCases {model : QueryModel} (noCases : model.caseConditions = []) :
    model.isEmpty = true ↔ model.categoryDrafts = [] := by
  rw [← List.length_eq_zero_iff, length_categoryDrafts]
  simp only [isEmpty, noCases, List.isEmpty_nil, Bool.and_true, Bool.and_eq_true,
    List.isEmpty_iff, ← List.length_eq_zero_iff]
  omega

/-- The filters of the models with one condition are filters of the whole model. -/
theorem check_of_mem_singles {model single : QueryModel}
    (checked : ∀ filter ∈ model.filters, filter.check = .ok ()) (member : single ∈ model.singles) :
    ∀ filter ∈ single.filters, filter.check = .ok () := by
  simp only [singles, List.mem_append, List.mem_map] at member
  rcases member with ((⟨filter, held, rfl⟩ | ⟨_, _, rfl⟩) | ⟨_, _, rfl⟩) | ⟨_, _, rfl⟩
  · simpa using checked filter held
  · exact List.forall_mem_nil _
  · exact List.forall_mem_nil _
  · exact List.forall_mem_nil _

end QueryModel

/-! ## The scenarios of a model -/

/-- The strategy by category numbers the drafts for all conditions. -/
theorem Strategy.category_generate_of_check {model : QueryModel}
    (checked : ∀ filter ∈ model.filters, filter.check = .ok ()) :
    category.generate model = .ok (ScenarioIds.fresh.label model.categoryDrafts).1 :=
  generate_of_check checked category

/-- The strategy by category makes two scenarios for each condition of a model whose filters
pass the check, numbered in one run.  Apart from their numbers they are the scenarios of the
models with one condition, one after the other, and the branches of `CASE` make no difference.
The model of a statement has no scenarios exactly if it is empty, and the counts of its output
agree. -/
theorem category_scenarios_compose :
    (∀ model : QueryModel, (∀ filter ∈ model.filters, filter.check = .ok ()) →
      ∃ scenarios, Strategy.category.generate model = .ok scenarios ∧
        scenarios.length = 2 * (model.filters.length + model.joins.length +
          model.aggregates.length + model.havingConditions.length) ∧
        Numbered scenarios ∧
        (∃ parts, List.Forall₂ (fun single part => Strategy.category.generate single = .ok part)
            model.singles parts ∧
          scenarios.map Scenario.draft = parts.flatMap (List.map Scenario.draft)) ∧
        ∀ branches, Strategy.category.generate { model with caseConditions := branches } =
          .ok scenarios) ∧
    (∀ (statement : Statement) (model : QueryModel),
      QueryModel.ofStatement statement = .ok model →
      ∃ scenarios, Strategy.category.generate model = .ok scenarios ∧
        (scenarios = [] ↔ model.isEmpty = true) ∧
        ∀ supplement, let summary := (Output.of model scenarios supplement).summary
          summary.scenarioCount = 2 * (summary.filterCount + summary.joinCount +
            summary.aggregateCount + summary.havingCount)) := by
  constructor
  · intro model checked
    refine ⟨_, Strategy.category_generate_of_check checked, ?_,
      ScenarioIds.numbered_label_fresh model.categoryDrafts, ?_, ?_⟩
    · rw [ScenarioIds.length_label, model.length_categoryDrafts]
    · refine ⟨model.singles.map fun single =>
        (ScenarioIds.fresh.label single.categoryDrafts).1, ?_, ?_⟩
      · rw [List.forall₂_map_right_iff, List.forall₂_same]
        intro single member
        exact Strategy.category_generate_of_check (QueryModel.check_of_mem_singles checked member)
      · rw [List.flatMap_map]
        simp only [ScenarioIds.map_draft_label]
        exact model.categoryDrafts_eq_flatMap_singles
    · intro branches
      exact Strategy.category_generate_of_check checked
  · intro statement model extracted
    have guaranteed := QueryModel.counted_of_ofStatement extracted
    refine ⟨_, Strategy.category_generate_of_check guaranteed.checked, ?_, ?_⟩
    · rw [QueryModel.isEmpty_iff_of_noCases guaranteed.noCases, ← List.length_eq_zero_iff,
        ScenarioIds.length_label, List.length_eq_zero_iff]
    · intro supplement summary
      change (ScenarioIds.fresh.label model.categoryDrafts).1.length = _
      rw [ScenarioIds.length_label, model.length_categoryDrafts]
      rfl

theorem category_scenarios_compose_mixed :
    let model : QueryModel :=
      { filters := [⟨"a", .equal, ["1"]⟩, ⟨"b", .other "LIKE", []⟩]
        joins := [⟨"x", "y"⟩]
        caseConditions := [⟨"c", "d"⟩]
        havingConditions := [⟨"SUM", "n", .greater, "5"⟩] }
    let statement : Statement := .query ⟨false, [], .block
      { form := .selectFirst, head := [], projection := [], target := [], sources := [],
        preFilter := [], filter := none, grouping := [], having := none, tail := [] }, []⟩
    (∀ filter ∈ model.filters, filter.check = .ok ()) ∧
      (∃ scenarios, Strategy.category.generate model = .ok scenarios ∧
        scenarios.length = 8 ∧ Numbered scenarios) ∧
      QueryModel.ofStatement statement = .ok {} ∧
      Strategy.category.generate {} = .ok [] := by
  intro model statement
  have checked : ∀ filter ∈ model.filters, filter.check = .ok () := by decide
  have extracted : QueryModel.ofStatement statement = .ok {} := by rfl
  obtain ⟨scenarios, generated, counted, numbered, -⟩ :=
    category_scenarios_compose.1 model checked
  obtain ⟨none, generatedNone, empty, -⟩ := category_scenarios_compose.2 statement {} extracted
  refine ⟨checked, ⟨scenarios, generated, counted, numbered⟩, extracted, ?_⟩
  rw [generatedNone, empty.mpr rfl]

end SqlScenarios
