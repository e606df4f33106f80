import Mathlib.Data.List.TakeWhile
import SqlScenarios.Extraction

/-!
# The leaves of a condition as a list

The parentheses and connectives of a condition are forgotten once its leaves are listed from
left to right.  Visiting a condition is visiting that list, and a visit that adds to the
conditions collected so far is described by what it adds and by whether it fails.  Both
walks over conditions, the one for filters and the one for conditions on groups, get their
closed form here: a `filterMap` over the leaves, cut off at the first leaf that is refused.
-/

namespace SqlScenarios

open Sql

variable {α : Type}

/-- The leaves of a condition from left to right, without the parentheses around them. -/
def Sql.Expr.leaves : Expr → List Expr
  | .paren inner => inner.leaves
  | .binary left .and right => left.leaves ++ right.leaves
  | .binary left .or right => left.leaves ++ right.leaves
  | leaf => [leaf]

/-- Visiting a condition is visiting its leaves in their order. -/
theorem forLeaves_eq_forM (visit : Predicate → Collector α Unit) (condition : Expr) :
    forLeaves visit condition =
      forM condition.leaves fun leaf => visit leaf.predicate := by
  fun_induction Expr.leaves condition with
  | case1 inner ih =>
      rw [forLeaves]
      exact ih
  | case2 left right leftIH rightIH =>
      rw [forLeaves, leftIH, rightIH, List.forM_append]
  | case3 left right leftIH rightIH =>
      rw [forLeaves, leftIH, rightIH, List.forM_append]
  | case4 leaf notParen notAnd notOr =>
      rw [forLeaves.eq_4]
      · simp
      all_goals assumption

/-! ## What a collector does to a list -/

namespace Collector

@[simp] theorem collectFrom_pure (initial : List α) :
    (pure () : Collector α Unit).collectFrom initial = (initial, .ok ()) := rfl

@[simp] theorem collectFrom_add (initial : List α) (condition : α) :
    (add condition).collectFrom initial = (initial ++ [condition], .ok ()) := rfl

@[simp] theorem collectFrom_forM_option (initial : List α) (condition? : Option α) :
    (forM condition? add : Collector α Unit).collectFrom initial =
      (initial ++ condition?.toList, .ok ()) := by
  cases condition? with
  | none => simp
  | some condition => simp

@[simp] theorem collectFrom_throw (initial : List α) (fault : ShapeFault) :
    (throw fault : Collector α Unit).collectFrom initial = (initial, .error fault) := rfl

/-- The second of two steps is taken only if the first succeeds, and continues its list. -/
theorem collectFrom_bind (initial : List α) (first : Collector α Unit)
    (next : Unit → Collector α Unit) :
    (first >>= next).collectFrom initial =
      match first.collectFrom initial with
      | (conditions, .ok ()) => (next ()).collectFrom conditions
      | (conditions, .error fault) => (conditions, .error fault) := by
  simp only [collectFrom, ExceptT.run_bind, StateT.run_bind]
  rcases StateT.run (ExceptT.run first) initial with ⟨outcome, conditions⟩
  cases outcome with
  | error fault => rfl
  | ok result => rfl

/-- Steps that add at most one condition each, or fail, add the conditions of the items before
the first that fails. -/
theorem collectFrom_forM {β : Type} {step : β → Collector α Unit}
    {condition? : β → Option α} {fault? : β → Option ShapeFault}
    (adds : ∀ item initial, (step item).collectFrom initial =
      match fault? item with
      | some fault => (initial, .error fault)
      | none => (initial ++ (condition? item).toList, .ok ()))
    (items : List β) (initial : List α) :
    (forM items step).collectFrom initial =
      (initial ++ (items.takeWhile fun item => (fault? item).isNone).filterMap condition?,
        match items.findSome? fault? with
        | some fault => .error fault
        | none => .ok ()) := by
  induction items generalizing initial with
  | nil => simp
  | cons item items ih =>
      rw [List.forM_cons, collectFrom_bind, adds]
      cases refused : fault? item with
      | some fault => simp [refused]
      | none =>
          simp only [ih]
          cases found : condition? item <;> simp [refused, found]

/-- Where no item is refused, all items come before the first refused one. -/
theorem takeWhile_eq_self_of_allowed {β : Type} {fault? : β → Option ShapeFault}
    {items : List β} (allowed : items.findSome? fault? = none) :
    (items.takeWhile fun item => (fault? item).isNone) = items := by
  rw [List.findSome?_eq_none_iff] at allowed
  exact List.takeWhile_eq_self_iff.2 fun item member => by simp [allowed item member]

/-- Steps that add at most one condition each, and never fail, add the conditions of all
items. -/
theorem collectFrom_forM_of_ok {β : Type} {step : β → Collector α Unit}
    {condition? : β → Option α}
    (adds : ∀ item initial, (step item).collectFrom initial =
      (initial ++ (condition? item).toList, .ok ())) (items : List β) (initial : List α) :
    (forM items step).collectFrom initial =
      (initial ++ items.filterMap condition?, .ok ()) := by
  let fault? : β → Option ShapeFault := fun _ => none
  have allowed : items.findSome? fault? = none := by simp [fault?]
  have collected : (forM items step).collectFrom initial = _ :=
    @collectFrom_forM α β step condition? fault? adds items initial
  rwa [takeWhile_eq_self_of_allowed allowed, allowed] at collected

/-- The steps of `collectFrom_forM` collect nothing if one fails, and the conditions of all
items otherwise. -/
theorem collect_forM {β : Type} {step : β → Collector α Unit}
    {condition? : β → Option α} {fault? : β → Option ShapeFault}
    (adds : ∀ item initial, (step item).collectFrom initial =
      match fault? item with
      | some fault => (initial, .error fault)
      | none => (initial ++ (condition? item).toList, .ok ())) (items : List β) :
    collect (forM items step) =
      match items.findSome? fault? with
      | some fault => .error fault
      | none => .ok (items.filterMap condition?) := by
  rw [collect, collectFrom_forM adds]
  cases refused : items.findSome? fault? with
  | some fault => rfl
  | none =>
      rw [takeWhile_eq_self_of_allowed refused]
      rfl

end Collector

/-! ## What a leaf adds -/

/-- The filter that a leaf is: a comparison with `=` or `>`, or a range or membership that is
not negated. -/
def Sql.Expr.filter? (leaf : Expr) : Option FilterCondition :=
  match leaf.unwrapped with
  | .binary left .equal right => some ⟨left.toSql, .equal, [right.toSql]⟩
  | .binary left .greater right => some ⟨left.toSql, .greater, [right.toSql]⟩
  | .between subject false low high => some ⟨subject.toSql, .between, [low.toSql, high.toSql]⟩
  | .inList subject false items => some ⟨subject.toSql, .isIn, items.map Expr.toSql⟩
  | .inQuery subject false query => some ⟨subject.toSql, .inQuery, [query.toSql]⟩
  | _ => none

/-- The fault of a leaf that asks for membership in a list without any items. -/
def Sql.Expr.emptyList? (leaf : Expr) : Option ShapeFault :=
  match leaf.unwrapped with
  | .inList subject false [] => some (.emptyList subject.toSql)
  | _ => none

/-- The condition on groups that a leaf is: a comparison with `=` or `>` of a call that has an
argument with a literal. -/
def Sql.Expr.having? (leaf : Expr) : Option HavingCondition :=
  match leaf.unwrapped with
  | .binary left .greater right => havingCondition? .greater left right
  | .binary left .equal right => havingCondition? .equal left right
  | _ => none

theorem collectFrom_addFilter (leaf : Expr) (initial : List FilterCondition) :
    (addFilter leaf.predicate).collectFrom initial =
      match leaf.emptyList? with
      | some fault => (initial, .error fault)
      | none => (initial ++ leaf.filter?.toList, .ok ()) := by
  unfold Expr.predicate Expr.filter? Expr.emptyList?
  generalize leaf.unwrapped = bare
  cases bare with
  | binary left op right => cases op <;> simp [addFilter]
  | between subject negated low high => cases negated <;> simp [addFilter]
  | inList subject negated items => cases negated <;> cases items <;> simp [addFilter]
  | inQuery subject negated query => cases negated <;> simp [addFilter]
  | name _ | literal _ | paren _ | unary _ _ | call _ _ _ _ | phrase _ => simp [addFilter]

theorem collectFrom_addHaving (leaf : Expr) (initial : List HavingCondition) :
    (addHaving leaf.predicate).collectFrom initial =
      (initial ++ leaf.having?.toList, .ok ()) := by
  unfold Expr.predicate Expr.having?
  generalize leaf.unwrapped = bare
  cases bare with
  | binary left op right =>
      cases op <;> simp [addHaving]
  | between _ negated _ _ => cases negated <;> simp [addHaving]
  | inList _ negated _ => cases negated <;> simp [addHaving]
  | inQuery _ negated _ => cases negated <;> simp [addHaving]
  | name _ | literal _ | paren _ | unary _ _ | call _ _ _ _ | phrase _ => simp [addHaving]

/-! ## The walks over a condition -/

/-- Filters are added for the leaves before the first empty list, and that list is the
fault. -/
theorem collectFrom_addFilters (condition : Expr) (initial : List FilterCondition) :
    (addFilters condition).collectFrom initial =
      (initial ++ (condition.leaves.takeWhile (·.emptyList?.isNone)).filterMap Expr.filter?,
        match condition.leaves.findSome? Expr.emptyList? with
        | some fault => .error fault
        | none => .ok ()) := by
  rw [addFilters, forLeaves_eq_forM]
  exact Collector.collectFrom_forM collectFrom_addFilter condition.leaves initial

/-- Conditions on groups are added for all leaves, and none is refused. -/
theorem collectFrom_addHavings (condition : Expr) (initial : List HavingCondition) :
    (addHavings condition).collectFrom initial =
      (initial ++ condition.leaves.filterMap Expr.having?, .ok ()) := by
  rw [addHavings, forLeaves_eq_forM]
  exact Collector.collectFrom_forM_of_ok collectFrom_addHaving condition.leaves initial

/-! ## The model of some blocks -/

/-- The leaves of the filter of a block. -/
def Sql.Block.filterLeaves (block : Block) : List Expr := block.filter.toList.flatMap Expr.leaves

/-- The leaves of the condition on groups of a block. -/
def Sql.Block.havingLeaves (block : Block) : List Expr := block.having.toList.flatMap Expr.leaves

/-- Visiting the conditions that some items have is visiting the leaves of all of them. -/
theorem forM_forLeaves_eq_forM {β : Type} (visit : Predicate → Collector α Unit)
    (condition? : β → Option Expr) (items : List β) :
    (items.forM fun item => (condition? item).forM (forLeaves visit)) =
      forM (items.flatMap fun item => (condition? item).toList.flatMap Expr.leaves)
        fun leaf => visit leaf.predicate := by
  induction items with
  | nil => rfl
  | cons item items ih =>
      have head : (condition? item).forM (forLeaves visit) =
          forM ((condition? item).toList.flatMap Expr.leaves)
            fun leaf => visit leaf.predicate := by
        cases condition? item with
        | none => rfl
        | some condition => simp [forLeaves_eq_forM, Option.forM]
      rw [List.flatMap_cons, List.forM_append, ← head, ← ih]
      rfl

/-- The closed form of extraction from blocks: the first empty list among the leaves of all
filters is the fault, and without one each list is a `filterMap` over the blocks. -/
theorem QueryModel.ofBlocks_eq (blocks : List Block) :
    QueryModel.ofBlocks blocks =
      match (blocks.flatMap Block.filterLeaves).findSome? Expr.emptyList? with
      | some fault => .error fault
      | none => .ok
          { joins := blocks.flatMap Block.joinConditions
            filters := (blocks.flatMap Block.filterLeaves).filterMap Expr.filter?
            aggregates := blocks.flatMap Block.aggregates
            havingConditions := (blocks.flatMap Block.havingLeaves).filterMap Expr.having? } := by
  have filters : Collector.collect (blocks.forM fun block => block.filter.forM addFilters) =
      match (blocks.flatMap Block.filterLeaves).findSome? Expr.emptyList? with
      | some fault => .error fault
      | none => .ok ((blocks.flatMap Block.filterLeaves).filterMap Expr.filter?) := by
    unfold addFilters
    rw [forM_forLeaves_eq_forM addFilter Block.filter]
    exact Collector.collect_forM collectFrom_addFilter _
  have havings : Collector.collect (blocks.forM fun block => block.having.forM addHavings) =
      .ok ((blocks.flatMap Block.havingLeaves).filterMap Expr.having?) := by
    unfold addHavings
    rw [forM_forLeaves_eq_forM addHaving Block.having, Collector.collect,
      Collector.collectFrom_forM_of_ok collectFrom_addHaving]
    rfl
  rw [ofBlocks, filters, havings]
  split <;> rfl

end SqlScenarios
