import Mathlib.Data.Option.Basic
import SqlScenarios.Proofs.Refilling
import SqlScenarios.Proofs.Refusals

/-!
# Subqueries are opaque

Extraction never looks into a subquery.  What stands there can change the texts of operands and
columns, because these are printed as they are written, and nothing else: a statement stays
refused or accepted, and its model keeps its shape.  So no condition of a subquery is ever
recorded for the query around it, and no fault of a subquery refuses it.
-/

namespace SqlScenarios

open Sql

/-! ## The shape of a model -/

/-- What a model says apart from the texts of operands and columns: how many joins there are, the
operator of each filter with the number of its operands, the function of each call, and the
function and the operator of each condition on groups. -/
structure ModelShape where
  joins : Nat
  filters : List (FilterOperator × Nat)
  aggregates : List String
  caseConditions : List CaseCondition
  havingConditions : List (String × HavingOperator)
  deriving DecidableEq, Repr

def FilterCondition.shape (filter : FilterCondition) : FilterOperator × Nat :=
  (filter.operator, filter.values.length)

def HavingCondition.shape (having : HavingCondition) : String × HavingOperator :=
  (having.function, having.operator)

def QueryModel.shape (model : QueryModel) : ModelShape where
  joins := model.joins.length
  filters := model.filters.map FilterCondition.shape
  aggregates := model.aggregates.map AggregateCondition.function
  caseConditions := model.caseConditions
  havingConditions := model.havingConditions.map HavingCondition.shape

/-- Two statements are extracted alike if both are refused, or both have models of one shape. -/
def Sql.Statement.ExtractedAlike (first second : Statement) : Prop :=
  (∃ fault other,
    QueryModel.ofStatement first = .error fault ∧ QueryModel.ofStatement second = .error other) ∨
  ∃ model other,
    QueryModel.ofStatement first = .ok model ∧ QueryModel.ofStatement second = .ok other ∧
      model.shape = other.shape

/-- The shape of the model of a statement, if it has one. -/
def Sql.Statement.shape? (statement : Statement) : Option ModelShape :=
  (QueryModel.ofStatement statement).toOption.map QueryModel.shape

theorem Sql.Statement.extractedAlike_iff {first second : Statement} :
    first.ExtractedAlike second ↔ first.shape? = second.shape? := by
  unfold ExtractedAlike shape?
  cases QueryModel.ofStatement first <;> cases QueryModel.ofStatement second <;>
    simp [Except.toOption]

/-! ## Conditions with changed subqueries -/

variable (change : Query → Query)

namespace Sql

/-- The operator of a filter and the number of its operands stand above all subqueries. -/
theorem Expr.shape_filter?_refill (leaf : Expr) :
    (leaf.refill change).filter?.map FilterCondition.shape =
      leaf.filter?.map FilterCondition.shape := by
  unfold filter?
  rw [unwrapped_refill]
  cases leaf.unwrapped with
  | binary left op right => cases op <;> rfl
  | between subject negated low high => cases negated <;> rfl
  | inList subject negated items =>
      cases negated <;> simp [Expr.refill, FilterCondition.shape]
  | inQuery subject negated query => cases negated <;> rfl
  | name _ | literal _ | paren _ | unary _ _ | call _ _ _ _ | phrase _ => rfl

theorem Expr.isSome_emptyList?_refill (leaf : Expr) :
    (leaf.refill change).emptyList?.isSome = leaf.emptyList?.isSome := by
  unfold emptyList?
  rw [unwrapped_refill]
  cases leaf.unwrapped with
  | inList subject negated items => cases negated <;> cases items <;> rfl
  | name _ | literal _ | paren _ | unary _ _ | binary _ _ _ | between _ _ _ _ | inQuery _ _ _
  | call _ _ _ _ | phrase _ => rfl

theorem shape_havingCondition?_refill (operator : HavingOperator) (left right : Expr) :
    (havingCondition? operator (left.refill change) (right.refill change)).map
        HavingCondition.shape =
      (havingCondition? operator left right).map HavingCondition.shape := by
  unfold havingCondition?
  rw [Expr.call?_refill, Expr.isLiteral_refill]
  cases left.call? with
  | none => rfl
  | some call =>
      have arguments :=
        call.bind_firstArgument?_refill change (some (call.functionName, operator))
      cases right.isLiteral with
      | false => rfl
      | true => simpa [HavingCondition.shape, Function.comp_def] using arguments

theorem Expr.shape_having?_refill (leaf : Expr) :
    (leaf.refill change).having?.map HavingCondition.shape =
      leaf.having?.map HavingCondition.shape := by
  unfold having?
  rw [unwrapped_refill]
  cases leaf.unwrapped with
  | binary left op right =>
      cases op with
      | equal | greater => exact shape_havingCondition?_refill change _ left right
      | and | or | other _ => rfl
  | name _ | literal _ | paren _ | unary _ _ | between _ _ _ _ | inList _ _ _ | inQuery _ _ _
  | call _ _ _ _ | phrase _ => rfl

theorem Item.function_aggregate?_refill (item : Item) :
    (item.refill change).aggregate?.map AggregateCondition.function =
      item.aggregate?.map AggregateCondition.function := by
  cases item with
  | other fragments => rfl
  | value expr label =>
      simp only [Item.refill, Item.aggregate?, Expr.call?_refill]
      cases expr.call? with
      | none => rfl
      | some call =>
          have arguments := call.bind_firstArgument?_refill change (some call.functionName)
          simpa [Function.comp_def] using arguments

theorem Join.isSome_condition?_refill (join : Join) :
    (join.refill change).condition?.isSome = join.condition?.isSome := by
  match join with
  | ⟨_, _, _, _, .using _⟩ | ⟨_, _, _, _, .natural⟩ | ⟨_, _, _, _, .unconstrained⟩ => rfl
  | ⟨_, kind, _, _, .on condition⟩ =>
      simp only [Join.refill, JoinConstraint.refill, Join.condition?, Expr.predicate,
        Expr.unwrapped_refill]
      cases kind.matchesRows with
      | false => rfl
      | true =>
          cases condition.unwrapped with
          | binary left op right => cases op <;> rfl
          | between subject negated low high => cases negated <;> rfl
          | inList subject negated items => cases negated <;> rfl
          | inQuery subject negated query => cases negated <;> rfl
          | name _ | literal _ | paren _ | unary _ _ | call _ _ _ _ | phrase _ => rfl

/-! ## Blocks with changed subqueries -/

namespace Block

variable (block : Block)

theorem filterLeaves_refill :
    (block.refill change).filterLeaves = block.filterLeaves.map (Expr.refill change) := by
  rw [filterLeaves, filterLeaves, filter_refill]
  cases block.filter <;> simp [Expr.leaves_refill]

theorem havingLeaves_refill :
    (block.refill change).havingLeaves = block.havingLeaves.map (Expr.refill change) := by
  rw [havingLeaves, havingLeaves, having_refill]
  cases block.having <;> simp [Expr.leaves_refill]

theorem length_joinConditions_refill :
    (block.refill change).joinConditions.length = block.joinConditions.length := by
  simp only [joinConditions, sources_refill, List.flatMap_map, List.length_flatMap,
    Source.joins_refill, List.length_filterMap_eq_countP, List.countP_map, Function.comp_def,
    Join.isSome_condition?_refill]

end Block

end Sql

/-! ## Models -/

/-- What is found in items of the same shapes has the same shapes. -/
theorem map_filterMap_eq_of_forall {α β γ : Type} {find? : α → Option β} {changed : α → α}
    {shape : β → γ} (same : ∀ item, (find? (changed item)).map shape = (find? item).map shape)
    (items : List α) :
    ((items.map changed).filterMap find?).map shape = (items.filterMap find?).map shape := by
  simp only [List.filterMap_map, List.map_filterMap, Function.comp_def, same]

/-- A fault is found among changed items exactly if one is found among the items. -/
theorem isSome_findSome?_eq_of_forall {α β : Type} {find? : α → Option β} {changed : α → α}
    (same : ∀ item, (find? (changed item)).isSome = (find? item).isSome) (items : List α) :
    ((items.map changed).findSome? find?).isSome = (items.findSome? find?).isSome := by
  simp only [List.isSome_findSome?, List.any_map, Function.comp_def, same]

/-- The shape of the conditions of blocks. -/
def ModelShape.ofBlocks (blocks : List Block) : ModelShape where
  joins := (blocks.flatMap Block.joinConditions).length
  filters :=
    ((blocks.flatMap Block.filterLeaves).filterMap Expr.filter?).map FilterCondition.shape
  aggregates := (blocks.flatMap Block.aggregates).map AggregateCondition.function
  caseConditions := []
  havingConditions :=
    ((blocks.flatMap Block.havingLeaves).filterMap Expr.having?).map HavingCondition.shape

theorem ModelShape.ofBlocks_refill (blocks : List Block) :
    ofBlocks (blocks.map (Block.refill change)) = ofBlocks blocks := by
  have aggregates (block : Block) :
      (block.refill change).aggregates.map AggregateCondition.function =
        block.aggregates.map AggregateCondition.function := by
    rw [Block.aggregates, Block.aggregates, Block.projection_refill]
    exact map_filterMap_eq_of_forall (Item.function_aggregate?_refill change) _
  unfold ofBlocks
  simp only [List.flatMap_map, List.length_flatMap, List.map_flatMap,
    Block.length_joinConditions_refill, Block.filterLeaves_refill, Block.havingLeaves_refill,
    aggregates]
  simp only [← List.map_flatMap, map_filterMap_eq_of_forall (Expr.shape_filter?_refill change),
    map_filterMap_eq_of_forall (Expr.shape_having?_refill change)]

/-- The blocks of a query with changed subqueries are its own blocks with changed subqueries. -/
theorem Sql.Query.visitedBlocks_refill (query : Query) :
    (QueryPart.query (query.refill change)).visitedBlocks =
      (QueryPart.query query).visitedBlocks.map (Block.refill change) :=
  QueryPart.visitedBlocks_refill change (.query query)

theorem Sql.Query.isSome_fault?_refill (query : Query) :
    (query.refill change).fault?.isSome = query.fault?.isSome := by
  have visits : (QueryPart.query (query.refill change)).visits =
      (QueryPart.query query).visits.map (QueryPart.refill change) :=
    QueryPart.visits_refill change (.query query)
  have leaves : (query.refill change).filterLeaves =
      query.filterLeaves.map (Expr.refill change) := by
    simp only [filterLeaves, visitedBlocks_refill, List.flatMap_map, List.map_flatMap,
      Block.filterLeaves_refill]
  simp only [fault?, Option.orElse_eq_orElse, Option.orElse_eq_or, Option.isSome_or, visits, leaves,
    isSome_findSome?_eq_of_forall (QueryPart.isSome_refusal?_refill change),
    isSome_findSome?_eq_of_forall (Expr.isSome_emptyList?_refill change)]

/-- A query has the shape of its blocks, unless it has a fault. -/
theorem Sql.Query.shape?_eq (query : Query) :
    (Statement.query query).shape? =
      if query.fault?.isSome then none
      else some (.ofBlocks (QueryPart.query query).visitedBlocks) := by
  rw [Statement.shape?, QueryModel.ofStatement, QueryModel.ofQuery_eq, fault?, filterLeaves]
  cases (QueryPart.query query).visits.findSome? QueryPart.refusal? with
  | some fault => rfl
  | none =>
      simp only [QueryModel.ofBlocks_eq]
      cases ((QueryPart.query query).visitedBlocks.flatMap Block.filterLeaves).findSome?
        Expr.emptyList? <;> rfl

/-- Whatever stands in its subqueries, a query is extracted alike. -/
theorem Sql.Query.shape?_refill (query : Query) :
    (Statement.query (query.refill change)).shape? = (Statement.query query).shape? := by
  rw [shape?_eq, shape?_eq, isSome_fault?_refill, visitedBlocks_refill,
    ModelShape.ofBlocks_refill]

/-! ## Subqueries -/

/-- Two queries that differ in nothing but their subqueries are both refused or both accepted, and
if they are accepted, their models have the same shape.  Any queries at all can stand in the place
of the subqueries: none of their conditions is recorded, and none of their faults refuses the query
around them. -/
theorem subqueries_opaque :
    (∀ first second : Query, first.outline = second.outline →
      Statement.ExtractedAlike (.query first) (.query second)) ∧
    (∀ (change : Query → Query) (query : Query),
      Statement.ExtractedAlike (.query (query.refill change)) (.query query)) := by
  constructor
  · intro first second same
    have firstAlike : (Statement.query first.outline).shape? = (Statement.query first).shape? :=
      Query.shape?_refill (fun _ => .blank) first
    have secondAlike : (Statement.query second.outline).shape? = (Statement.query second).shape? :=
      Query.shape?_refill (fun _ => .blank) second
    rw [Statement.extractedAlike_iff, ← firstAlike, same, secondAlike]
  · intro change query
    exact Statement.extractedAlike_iff.2 (query.shape?_refill change)

/-- A query with the same subquery in a call, in a join, in a membership, in an `EXISTS` and in the
condition on groups. -/
def subqueryForms (subquery : Query) : Query :=
  let column (name : String) : Expr := .name [⟨name, none⟩]
  let scalar : Expr := .phrase [.text "(", .query subquery, .text ")"]
  ⟨false, [], .block
    { form := .selectFirst
      head := []
      projection :=
        [.value (.call [⟨"ARRAY", none⟩] [] (.query subquery) []) none,
          .value (.call [⟨"MAX", none⟩] [] (.list "" [.value [] scalar] []) []) none]
      target := []
      sources :=
        [⟨.other [.text "t"] none [],
          [⟨false, .join, .other [.text "u"] none [], [],
            .on (.binary (column "x") .equal scalar)⟩]⟩]
      preFilter := []
      filter := some
        (.binary (.inQuery (column "y") false subquery) .and
          (.phrase [.text "EXISTS (", .query subquery, .text ")"]))
      grouping := []
      having := some
        (.binary (.call [⟨"SUM", none⟩] [] (.list "" [.value [] scalar] []) []) .greater
          (.literal (.number "1" false)))
      tail := [] }, []⟩

/-- The query `VALUES (1)`. -/
def valuesQuery : Query := ⟨false, [], .other [.text "VALUES (1)"], []⟩

theorem subqueries_opaque_forms :
    QueryModel.ofStatement (.query valuesQuery) = .error (.bodyNotSelect "VALUES (1)") ∧
    QueryModel.ofStatement (.query emptyListQuery) = .error (.emptyList "b") ∧
    (subqueryForms valuesQuery).outline = (subqueryForms emptyListQuery).outline ∧
    Statement.ExtractedAlike (.query (subqueryForms valuesQuery))
      (.query (subqueryForms emptyListQuery)) ∧
    QueryModel.ofStatement (.query (subqueryForms valuesQuery)) = .ok
      { joins := [⟨"x", "(VALUES (1))"⟩]
        filters := [⟨"y", .inQuery, ["VALUES (1)"]⟩]
        aggregates := [⟨"MAX", "(VALUES (1))"⟩]
        havingConditions := [⟨"SUM", "(VALUES (1))", .greater, "1"⟩] } := by
  have same : (subqueryForms valuesQuery).outline = (subqueryForms emptyListQuery).outline := rfl
  exact ⟨rfl, rfl, same, subqueries_opaque.1 _ _ same, rfl⟩

end SqlScenarios
