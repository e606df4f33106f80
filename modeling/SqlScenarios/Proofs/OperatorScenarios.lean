import Mathlib.Algebra.GroupWithZero.Nat
import SqlScenarios.Proofs.Numbering

/-!
# Scenarios by operator

Expanding one list of filters after another gives the scenarios of both, of which the later ones
have greater numbers.  Each operator has a fixed number of rows, and filters with an operator
that has none might as well not be there.
-/

namespace SqlScenarios

namespace FilterOperator

/-- Whether an operator has a table of rows. -/
def isTabled : FilterOperator → Bool
  | equal | greater | between | isIn => true
  | inQuery | other _ => false

/-- How many rows the table of an operator has. -/
def rowCount : FilterOperator → Nat
  | equal => 3
  | greater => 4
  | between => 6
  | isIn => 3
  | inQuery | other _ => 0

theorem mem_of_isTabled {operator : FilterOperator} (tabled : operator.isTabled = true) :
    operator ∈ [.equal, .greater, .between, .isIn] := by
  cases operator with
  | equal | greater | between | isIn => simp
  | inQuery | other _ => cases tabled

theorem rowCount_of_not_tabled {operator : FilterOperator}
    (untabled : operator.isTabled = false) : operator.rowCount = 0 := by
  cases operator with
  | equal | greater | between | isIn => cases untabled
  | inQuery | other _ => rfl

end FilterOperator

namespace FilterCondition

/-- A filter whose operator has no table has no drafts. -/
theorem operatorDrafts_of_not_tabled {filter : FilterCondition}
    (untabled : filter.operator.isTabled = false) : filter.operatorDrafts = [] := by
  rw [operatorDrafts, List.map_eq_nil_iff]
  cases operator : filter.operator with
  | equal | greater | between | isIn =>
      rw [operator] at untabled
      cases untabled
  | inQuery | other _ => simp [rows, operator]

/-- A filter that passes the check has all rows of the table of its operator. -/
theorem length_operatorDrafts {filter : FilterCondition} (checked : filter.check = .ok ()) :
    filter.operatorDrafts.length = filter.operator.rowCount := by
  cases tabled : filter.operator.isTabled with
  | true => cases tabled_of_check checked (FilterOperator.mem_of_isTabled tabled) <;> rfl
  | false =>
      rw [operatorDrafts_of_not_tabled tabled, FilterOperator.rowCount_of_not_tabled tabled]
      rfl

/-- The drafts of filters are those of the filters whose operators have a table. -/
theorem flatMap_operatorDrafts_filter (filters : List FilterCondition) :
    (filters.filter (·.operator.isTabled)).flatMap operatorDrafts =
      filters.flatMap operatorDrafts := by
  induction filters with
  | nil => rfl
  | cons filter filters ih =>
      cases tabled : filter.operator.isTabled with
      | true => simp [tabled, ih]
      | false => simp [tabled, ih, operatorDrafts_of_not_tabled tabled]

theorem length_flatMap_operatorDrafts {filters : List FilterCondition}
    (checked : ∀ filter ∈ filters, filter.check = .ok ()) :
    (filters.flatMap operatorDrafts).length =
      (filters.map (·.operator.rowCount)).sum := by
  rw [List.length_flatMap,
    List.map_congr_left fun filter member => length_operatorDrafts (checked filter member)]

end FilterCondition

/-- Filters that pass the check are expanded to their drafts, numbered from the first number. -/
theorem expandFilters_of_check {filters : List FilterCondition}
    (checked : ∀ filter ∈ filters, filter.check = .ok ()) :
    expandFilters filters =
      .ok (ScenarioIds.fresh.label (filters.flatMap FilterCondition.operatorDrafts)).1 := by
  rw [expandFilters, expandFrom_eq, forM_eq_ok_iff.mpr checked]
  rfl

/-- The expansion of filters that pass the check gives as many scenarios as their operators have
rows, numbered from the first number on, and gives the same without the filters whose operators
have no table.  The expansion of two lists one after the other begins with the scenarios of the
first list, and goes on with those of the second with numbers that are greater by as many. -/
theorem expandFilters_homomorphic :
    (∀ filters : List FilterCondition, (∀ filter ∈ filters, filter.check = .ok ()) →
      ∃ scenarios, expandFilters filters = .ok scenarios ∧
        Numbered scenarios ∧
        scenarios.length = (filters.map (·.operator.rowCount)).sum ∧
        expandFilters (filters.filter (·.operator.isTabled)) = .ok scenarios) ∧
    (∀ first rest : List FilterCondition, (∀ filter ∈ first, filter.check = .ok ()) →
      (∀ filter ∈ rest, filter.check = .ok ()) →
      ∃ scenarios later shifted, expandFilters first = .ok scenarios ∧
        expandFilters rest = .ok later ∧
        expandFilters (first ++ rest) = .ok (scenarios ++ shifted) ∧
        List.Forall₂ (Scenario.ShiftedBy scenarios.length) later shifted) := by
  constructor
  · intro filters checked
    refine ⟨_, expandFilters_of_check checked, ScenarioIds.numbered_label_fresh _, ?_, ?_⟩
    · rw [ScenarioIds.length_label, FilterCondition.length_flatMap_operatorDrafts checked]
    · have kept : ∀ filter ∈ filters.filter (·.operator.isTabled), filter.check = .ok () :=
        fun filter member => checked filter (List.mem_of_mem_filter member)
      rw [expandFilters_of_check kept, FilterCondition.flatMap_operatorDrafts_filter]
  · intro first rest checkedFirst checkedRest
    have checked : ∀ filter ∈ first ++ rest, filter.check = .ok () :=
      List.forall_mem_append.mpr ⟨checkedFirst, checkedRest⟩
    let middle := (ScenarioIds.fresh.label (first.flatMap FilterCondition.operatorDrafts)).2
    refine ⟨_, _, (middle.label (rest.flatMap FilterCondition.operatorDrafts)).1,
      expandFilters_of_check checkedFirst, expandFilters_of_check checkedRest, ?_, ?_⟩
    · rw [expandFilters_of_check checked, List.flatMap_append, ScenarioIds.label_append]
    · simp only [middle, ScenarioIds.label_next, ScenarioIds.length_label]
      exact ScenarioIds.fresh.forall₂_shiftedBy_label _ _

theorem expandFilters_homomorphic_mixed :
    let first : List FilterCondition := [⟨"a", .equal, ["1"]⟩, ⟨"b", .other "LIKE", []⟩]
    let rest : List FilterCondition :=
      [⟨"c", .inQuery, ["SELECT 1"]⟩, ⟨"d", .between, ["2", "3"]⟩, ⟨"e", .isIn, ["4", "5"]⟩]
    (∀ filter ∈ first, filter.check = .ok ()) ∧ (∀ filter ∈ rest, filter.check = .ok ()) ∧
      (∃ scenarios, expandFilters rest = .ok scenarios ∧ Numbered scenarios ∧
        scenarios.length = 9 ∧
        expandFilters [⟨"d", .between, ["2", "3"]⟩, ⟨"e", .isIn, ["4", "5"]⟩] = .ok scenarios) ∧
      ∃ scenarios later shifted, expandFilters first = .ok scenarios ∧
        expandFilters rest = .ok later ∧
        expandFilters (first ++ rest) = .ok (scenarios ++ shifted) ∧
        List.Forall₂ (Scenario.ShiftedBy scenarios.length) later shifted := by
  intro first rest
  have checkedFirst : ∀ filter ∈ first, filter.check = .ok () := by decide
  have checkedRest : ∀ filter ∈ rest, filter.check = .ok () := by decide
  exact ⟨checkedFirst, checkedRest, expandFilters_homomorphic.1 rest checkedRest,
    expandFilters_homomorphic.2 first rest checkedFirst checkedRest⟩

end SqlScenarios
