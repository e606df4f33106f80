import Mathlib.Data.List.Forall2
import SqlScenarios.Proofs.Outcomes
import SqlScenarios.Strategy

/-!
# Expanding checked filters

Filters that pass the check are expanded without a fault, and their scenarios are their
drafts numbered in one run.  The check is also all that the table of an operator relies
on: an expansion that takes the bounds of a range by their positions agrees with the table,
whatever the filter, and never misses a bound.
-/

namespace SqlScenarios

/-! ## Numbering -/

/-- Numbering a list of drafts is numbering its first part, and then the rest from where the
first part ended. -/
theorem ScenarioIds.label_append (ids : ScenarioIds) (first rest : List Draft) :
    ids.label (first ++ rest) =
      ((ids.label first).1 ++ ((ids.label first).2.label rest).1,
        ((ids.label first).2.label rest).2) := by
  induction first generalizing ids with
  | nil => rfl
  | cons draft drafts ih => simp [label, ih]

/-- The numbers of drafts are consecutive. -/
theorem ScenarioIds.map_id_label (ids : ScenarioIds) (drafts : List Draft) :
    (ids.label drafts).1.map Scenario.id = (List.range' ids.next drafts.length).map idText := by
  induction drafts generalizing ids with
  | nil => rfl
  | cons draft drafts ih =>
      rw [label, List.length_cons, List.range'_succ, List.map_cons, List.map_cons]
      exact congrArg _ (ih ids.take.2)

/-- What holds of the drafts for some sources, whatever their numbers, holds of the scenarios
that they are numbered as. -/
theorem ScenarioIds.forall₂_label {α : Type} {related : Scenario → α → Prop} {draft : α → Draft}
    (ids : ScenarioIds) {sources : List α}
    (numbered : ∀ source ∈ sources, ∀ id, related ((draft source).withId id) source) :
    List.Forall₂ related (ids.label (sources.map draft)).1 sources := by
  induction sources generalizing ids with
  | nil => exact .nil
  | cons source sources ih =>
      apply List.Forall₂.cons
      · exact numbered source (by simp) ids.take.1
      · exact ih ids.take.2 fun other member => numbered other (by simp [member])

/-! ## Checked filters -/

/-- The filters that have a table, with the operands that their operator takes. -/
inductive FilterCondition.Tabled : FilterCondition → Prop where
  | equal (column operand : String) : Tabled ⟨column, .equal, [operand]⟩
  | greater (column operand : String) : Tabled ⟨column, .greater, [operand]⟩
  | between (column low high : String) : Tabled ⟨column, .between, [low, high]⟩
  | isIn (column operand : String) (operands : List String) :
      Tabled ⟨column, .isIn, operand :: operands⟩

/-- Filters with one of the first four operators have a table if they pass the check. -/
theorem FilterCondition.tabled_of_check {filter : FilterCondition}
    (checked : filter.check = .ok ())
    (operator : filter.operator ∈ [.equal, .greater, .between, .isIn]) : filter.Tabled := by
  have counted : filter.wellFormed = true := by
    unfold check at checked
    split at checked
    next wellFormed => exact wellFormed
    next => cases checked
  obtain ⟨column, _, values⟩ := filter
  simp only [List.mem_cons, List.not_mem_nil, or_false] at operator
  simp only [wellFormed] at counted
  rcases operator with rfl | rfl | rfl | rfl
  · match values, counted with
    | [operand], _ => exact .equal column operand
  · match values, counted with
    | [operand], _ => exact .greater column operand
  · match values, counted with
    | [low, high], _ => exact .between column low high
  · match values, counted with
    | operand :: operands, _ => exact .isIn column operand operands

theorem FilterCondition.expand_of_check {filter : FilterCondition}
    (checked : filter.check = .ok ()) (ids : ScenarioIds) :
    filter.expand ids = .ok (ids.label filter.operatorDrafts) := by
  rw [expand, checked]
  rfl

/-- Expanding filters is checking all of them, and then numbering all their drafts in one run. -/
theorem expandFrom_eq (ids : ScenarioIds) (filters : List FilterCondition) :
    expandFrom ids filters = do
      filters.forM FilterCondition.check
      return ids.label (filters.flatMap FilterCondition.operatorDrafts) := by
  induction filters generalizing ids with
  | nil => rfl
  | cons filter filters ih =>
      rw [expandFrom, FilterCondition.expand, List.forM, List.flatMap_cons,
        ScenarioIds.label_append]
      cases filter.check with
      | error fault => rfl
      | ok =>
          change (expandFrom (ids.label filter.operatorDrafts).2 filters >>= _) = _
          rw [ih]
          cases filters.forM FilterCondition.check <;> rfl

/-- The drafts of a strategy for the conditions of a query. -/
def Strategy.drafts (strategy : Strategy) (model : QueryModel) : List Draft :=
  match strategy with
  | category => model.categoryDrafts
  | operatorTable => model.filters.flatMap FilterCondition.operatorDrafts

/-- Both strategies check all filters, and then number their drafts in one run. -/
theorem Strategy.generate_eq (strategy : Strategy) (model : QueryModel) :
    strategy.generate model = do
      model.filters.forM FilterCondition.check
      return (ScenarioIds.fresh.label (strategy.drafts model)).1 := by
  cases strategy with
  | category => rfl
  | operatorTable =>
      rw [generate, QueryModel.operatorScenarios, expandFilters, expandFrom_eq]
      cases model.filters.forM FilterCondition.check <;> rfl

theorem Strategy.generate_of_check {model : QueryModel}
    (checked : ∀ filter ∈ model.filters, filter.check = .ok ()) (strategy : Strategy) :
    strategy.generate model = .ok (ScenarioIds.fresh.label (strategy.drafts model)).1 := by
  rw [generate_eq, forM_eq_ok_iff.mpr checked]
  rfl

/-- Both strategies generate scenarios exactly for the models whose filters pass the check, and
number their drafts in one run. -/
theorem Strategy.generate_eq_ok_iff {strategy : Strategy} {model : QueryModel}
    {scenarios : List Scenario} :
    strategy.generate model = .ok scenarios ↔
      (∀ filter ∈ model.filters, filter.check = .ok ()) ∧
        scenarios = (ScenarioIds.fresh.label (strategy.drafts model)).1 := by
  constructor
  · intro generated
    have passed := generated
    rw [generate_eq, bind_eq_ok_iff] at passed
    obtain ⟨_, passed, numbered⟩ := passed
    exact ⟨forM_eq_ok_iff.mp passed, (Except.ok.inj numbered).symm⟩
  · rintro ⟨checked, rfl⟩
    exact generate_of_check checked strategy

/-- Both strategies generate scenarios for a model whose filters pass the check. -/
theorem Strategy.exists_generate_of_check {model : QueryModel}
    (checked : ∀ filter ∈ model.filters, filter.check = .ok ()) (strategy : Strategy) :
    ∃ scenarios, strategy.generate model = .ok scenarios :=
  ⟨_, generate_of_check checked strategy⟩

/-! ## Operands by their positions -/

namespace FilterCondition

/-- The operand at a position.  The fault is a position that no operand is at. -/
def operandAt (filter : FilterCondition) (position : Nat) : Except Nat String :=
  match filter.values[position]? with
  | some value => .ok value
  | none => .error position

/-- The rows of a filter, chosen by its operator alone, with the bounds of a range taken by
their positions. -/
def rowsByPosition (filter : FilterCondition) : Except Nat (List OperatorRow) :=
  match filter.operator with
  | .equal => return OperatorRow.equality filter.firstValue
  | .greater => return OperatorRow.greaterThan filter.firstValue
  | .between => do
      let low ← filter.operandAt 0
      let high ← filter.operandAt 1
      return OperatorRow.range low high
  | .isIn => return OperatorRow.membership filter.values
  | .inQuery | .other _ => return []

/-- How an expansion by positions ends. -/
inductive Expansion where
  | finished (scenarios : List Scenario) (ids : ScenarioIds)
  | malformed (fault : MalformedCondition)
  | outOfRange (position : Nat)

/-- The expansion that refuses a malformed filter and otherwise takes the bounds of a range by
their positions. -/
def expandByPosition (filter : FilterCondition) (ids : ScenarioIds) : Expansion :=
  match filter.check with
  | .error fault => .malformed fault
  | .ok () =>
      match filter.rowsByPosition with
      | .error position => .outOfRange position
      | .ok rows =>
          let (scenarios, rest) := ids.label (rows.map (OperatorRow.draft filter))
          .finished scenarios rest

/-- How an expansion ends that has no positions to miss. -/
def Expansion.ofResult : Except MalformedCondition (List Scenario × ScenarioIds) → Expansion
  | .ok (scenarios, rest) => .finished scenarios rest
  | .error fault => .malformed fault

/-- The positions that the table of a checked filter takes are those of its operands. -/
theorem rowsByPosition_of_check {filter : FilterCondition} (checked : filter.check = .ok ()) :
    filter.rowsByPosition = .ok filter.rows := by
  cases operator : filter.operator with
  | equal | greater | between | isIn =>
      cases tabled_of_check checked (by simp [operator]) <;> rfl
  | inQuery | other _ => simp only [rowsByPosition, rows, operator]; rfl

/-- Taking the bounds of a range by their positions never misses one, and makes no difference. -/
theorem expandByPosition_eq (filter : FilterCondition) (ids : ScenarioIds) :
    filter.expandByPosition ids = .ofResult (filter.expand ids) := by
  unfold expandByPosition
  split
  next fault refused =>
    rw [expand, refused]
    rfl
  next checked =>
    rw [expand_of_check checked, rowsByPosition_of_check checked]
    rfl

end FilterCondition

end SqlScenarios
