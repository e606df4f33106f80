import SqlScenarios.Generation
import SqlScenarios.Proofs.Expansion
import SqlScenarios.Proofs.Leaves
import SqlScenarios.Proofs.QueryTree

/-!
# Extracted filters have their operands

Each leaf gives a filter with as many operands as its operator takes, so the filters of an
extracted model pass the check that both strategies begin with, and generation from a text
never reports a malformed condition.
-/

namespace SqlScenarios

open Sql

/-! ## Extracted models -/

/-- What extraction guarantees to the strategies. -/
structure QueryModel.Counted (model : QueryModel) : Prop where
  checked : ∀ filter ∈ model.filters, filter.check = .ok ()
  known : ∀ filter ∈ model.filters, ∀ text, filter.operator ≠ .other text
  noCases : model.caseConditions = []

/-- A leaf that is no empty list gives a filter with the right number of operands. -/
theorem check_of_filter? {leaf : Expr} {filter : FilterCondition}
    (allowed : leaf.emptyList? = none) (found : leaf.filter? = some filter) :
    filter.check = .ok () ∧ ∀ text, filter.operator ≠ .other text := by
  unfold Expr.emptyList? at allowed
  unfold Expr.filter? at found
  generalize leaf.unwrapped = bare at allowed found
  cases bare with
  | binary left op right =>
      cases op with
      | equal | greater =>
          cases found
          exact ⟨rfl, by simp⟩
      | and | or | other _ => cases found
  | between subject negated low high =>
      cases negated with
      | false =>
          cases found
          exact ⟨rfl, by simp⟩
      | true => cases found
  | inList subject negated items =>
      cases negated with
      | false =>
          cases items with
          | nil => cases allowed
          | cons item items =>
              cases found
              exact ⟨by simp [FilterCondition.check, FilterCondition.wellFormed,
                FilterOperator.operandCount, OperandCount.allows], by simp⟩
      | true => cases found
  | inQuery subject negated query =>
      cases negated with
      | false =>
          cases found
          exact ⟨rfl, by simp⟩
      | true => cases found
  | name _ | literal _ | paren _ | unary _ _ | call _ _ _ _ | phrase _ => cases found

/-- The model of some blocks has the guarantees. -/
theorem QueryModel.counted_of_ofBlocks {blocks : List Block} {model : QueryModel}
    (extracted : QueryModel.ofBlocks blocks = .ok model) : model.Counted := by
  rw [QueryModel.ofBlocks_eq] at extracted
  split at extracted
  next => cases extracted
  next allowed =>
      rw [List.findSome?_eq_none_iff] at allowed
      cases extracted
      have guaranteed : ∀ filter ∈ (blocks.flatMap Block.filterLeaves).filterMap Expr.filter?,
          filter.check = .ok () ∧ ∀ text, filter.operator ≠ .other text := by
        intro filter member
        obtain ⟨leaf, leafMember, found⟩ := List.mem_filterMap.1 member
        exact check_of_filter? (allowed leaf leafMember) found
      exact ⟨fun filter member => (guaranteed filter member).1,
        fun filter member => (guaranteed filter member).2, rfl⟩

/-- The model of a statement has the guarantees. -/
theorem QueryModel.counted_of_ofStatement {statement : Statement} {model : QueryModel}
    (extracted : QueryModel.ofStatement statement = .ok model) : model.Counted := by
  cases statement with
  | command fragments => cases extracted
  | query query =>
      obtain ⟨blocks, _, fromBlocks⟩ := bind_eq_ok_iff.1 extracted
      exact counted_of_ofBlocks fromBlocks

/-! ## Generation -/

/-- The model of a text has the guarantees. -/
theorem QueryModel.counted_of_ofText {dialect : Dialect} {sql : String} {model : QueryModel}
    (extracted : QueryModel.ofText dialect sql = .ok model) : model.Counted := by
  obtain ⟨statement, _, fromStatement⟩ := bind_eq_ok_iff.1 extracted
  cases found : QueryModel.ofStatement statement with
  | error fault =>
      rw [found] at fromStatement
      cases fromStatement
  | ok extractedModel =>
      rw [found] at fromStatement
      cases fromStatement
      exact counted_of_ofStatement found

/-- A text without a model is refused for another reason than a malformed condition. -/
theorem QueryModel.ofText_ne_malformed (dialect : Dialect) (sql : String)
    (fault : MalformedCondition) :
    QueryModel.ofText dialect sql ≠ .error (.malformedCondition fault) := by
  unfold ofText parseStatement
  cases parseStatements dialect sql with
  | error parseFault => nofun
  | ok statements =>
      change (Except.mapError _ (singleStatement statements) >>= _) ≠ _
      cases singleStatement statements with
      | error shapeFault => nofun
      | ok statement =>
          change Except.mapError _ (QueryModel.ofStatement statement) ≠ _
          cases QueryModel.ofStatement statement <;> nofun

/-- Every extracted filter has as many operands as its operator takes.  Hence no text is
refused by a strategy for a malformed condition, and an expansion that takes operands by
their positions never misses one, whatever the filter. -/
theorem operands_counted :
    (∀ (statement : Statement) (model : QueryModel),
      QueryModel.ofStatement statement = .ok model → model.Counted) ∧
    (∀ (dialect : Dialect) (strategy : Strategy) (sql : String) (fault : MalformedCondition),
      generateScenarios dialect strategy sql ≠ .error (.malformedCondition fault)) ∧
    (∀ (filter : FilterCondition) (ids : ScenarioIds),
      (∀ position, filter.expandByPosition ids ≠ .outOfRange position) ∧
      filter.expandByPosition ids = .ofResult (filter.expand ids)) := by
  refine ⟨?_, ?_, ?_⟩
  · intro statement model extracted
    exact QueryModel.counted_of_ofStatement extracted
  · intro dialect strategy sql fault
    unfold generateScenarios
    cases extracted : QueryModel.ofText dialect sql with
    | error refusal =>
        intro refused
        cases refused
        exact QueryModel.ofText_ne_malformed dialect sql fault extracted
    | ok model =>
        have guaranteed := QueryModel.counted_of_ofText extracted
        obtain ⟨scenarios, generated⟩ := strategy.exists_generate_of_check guaranteed.checked
        change strategy.scenarios model ≠ _
        rw [Strategy.scenarios, generated]
        nofun
  · intro filter ids
    have same := filter.expandByPosition_eq ids
    refine ⟨?_, same⟩
    intro position
    rw [same]
    cases filter.expand ids <;> nofun

/-- The statement `SELECT WHERE a IN (1, 2) OR (b BETWEEN 3 AND 4 AND NOT c IN ())`. -/
def rangeStatement : Statement :=
  let column (name : String) : Expr := .name [⟨name, none⟩]
  let number (digits : String) : Expr := .literal (.number digits false)
  let condition : Expr :=
    .binary (.inList (column "a") false [number "1", number "2"]) .or
      (.paren (.binary (.between (column "b") false (number "3") (number "4")) .and
        (.unary .not (.inList (column "c") false []))))
  .query ⟨false, [], .block
    { form := .selectFirst, head := [], projection := [], target := [], sources := [],
      preFilter := [], filter := some condition, grouping := [], having := none, tail := [] }, []⟩

theorem operands_counted_ranges :
    let model : QueryModel :=
      { filters := [⟨"a", .isIn, ["1", "2"]⟩, ⟨"b", .between, ["3", "4"]⟩] }
    QueryModel.ofStatement rangeStatement = .ok model ∧ model.Counted := by
  intro model
  have extracted : QueryModel.ofStatement rangeStatement = .ok model := by rfl
  exact ⟨extracted, operands_counted.1 rangeStatement model extracted⟩

end SqlScenarios
