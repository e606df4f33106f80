import SqlScenarios.Proofs.Leaves
import SqlScenarios.Proofs.Visits

/-!
# Changing subqueries

A subquery is a query inside an expression or between the words of a phrase: the rows of a
membership, the argument of a call, the query of an `EXISTS`.  Common tables and queries that
stand for tables are no subqueries; blocks are read from them.  `refill` puts other queries in
the place of all subqueries, wherever they stand, and keeps everything around them.  The outline
of a query has a blank in all these places, so two queries have one outline exactly if they
differ in nothing but their subqueries.
-/

namespace SqlScenarios.Sql

/-! ## Changing subqueries -/

mutual

/-- An expression with its subqueries changed. -/
def Expr.refill (change : Query → Query) : Expr → Expr
  | .name parts => .name parts
  | .literal value => .literal value
  | .paren inner => .paren (inner.refill change)
  | .unary op operand => .unary op (operand.refill change)
  | .binary left op right => .binary (left.refill change) op (right.refill change)
  | .between subject negated low high =>
      .between (subject.refill change) negated (low.refill change) (high.refill change)
  | .inList subject negated items =>
      .inList (subject.refill change) negated (Expr.listRefill change items)
  | .inQuery subject negated query => .inQuery (subject.refill change) negated (change query)
  | .call function parameters arguments suffix =>
      .call function (Fragment.listRefill change parameters) (arguments.refill change)
        (Fragment.listRefill change suffix)
  | .phrase fragments => .phrase (Fragment.listRefill change fragments)

/-- Expressions with their subqueries changed. -/
def Expr.listRefill (change : Query → Query) : List Expr → List Expr
  | [] => []
  | expr :: rest => expr.refill change :: Expr.listRefill change rest

/-- What a call is applied to, with its subqueries changed. -/
def Arguments.refill (change : Query → Query) : Arguments → Arguments
  | .absent => .absent
  | .query query => .query (change query)
  | .list quantifier items clauses =>
      .list quantifier (Argument.listRefill change items) (Fragment.listRefill change clauses)

/-- An argument with its subqueries changed. -/
def Argument.refill (change : Query → Query) : Argument → Argument
  | .value label expr => .value (Fragment.listRefill change label) (expr.refill change)
  | .wildcard text => .wildcard text

/-- Arguments with their subqueries changed. -/
def Argument.listRefill (change : Query → Query) : List Argument → List Argument
  | [] => []
  | argument :: rest => argument.refill change :: Argument.listRefill change rest

/-- A piece of a phrase with its subqueries changed. -/
def Fragment.refill (change : Query → Query) : Fragment → Fragment
  | .text text => .text text
  | .expr expr => .expr (expr.refill change)
  | .query query => .query (change query)
  | .source source => .source (source.refill change)

/-- A phrase with its subqueries changed. -/
def Fragment.listRefill (change : Query → Query) : List Fragment → List Fragment
  | [] => []
  | fragment :: rest => fragment.refill change :: Fragment.listRefill change rest

/-- A query with its subqueries changed. -/
def Query.refill (change : Query → Query) : Query → Query
  | ⟨recursive, commonTables, body, tail⟩ =>
      ⟨recursive, CommonTable.listRefill change commonTables, body.refill change,
        Fragment.listRefill change tail⟩

/-- A common table with the subqueries of its query changed. -/
def CommonTable.refill (change : Query → Query) : CommonTable → CommonTable
  | ⟨head, query, tail⟩ => ⟨head, query.refill change, tail⟩

/-- Common tables with the subqueries of their queries changed. -/
def CommonTable.listRefill (change : Query → Query) : List CommonTable → List CommonTable
  | [] => []
  | table :: tables => table.refill change :: CommonTable.listRefill change tables

/-- A body with its subqueries changed. -/
def Body.refill (change : Query → Query) : Body → Body
  | .block block => .block (block.refill change)
  | .paren query => .paren (query.refill change)
  | .setOperation left operation right =>
      .setOperation (left.refill change) operation (right.refill change)
  | .other fragments => .other (Fragment.listRefill change fragments)

/-- A block with its subqueries changed. -/
def Block.refill (change : Query → Query) : Block → Block
  | ⟨form, head, projection, target, sources, preFilter, filter, grouping, having, tail⟩ =>
      ⟨form, Fragment.listRefill change head, Item.listRefill change projection,
        Fragment.listRefill change target, Source.listRefill change sources,
        Fragment.listRefill change preFilter, Expr.clauseRefill change filter,
        Fragment.listRefill change grouping, Expr.clauseRefill change having,
        Fragment.listRefill change tail⟩

/-- An optional expression with its subqueries changed. -/
def Expr.clauseRefill (change : Query → Query) : Option Expr → Option Expr
  | none => none
  | some expr => some (expr.refill change)

/-- An item of a block with its subqueries changed. -/
def Item.refill (change : Query → Query) : Item → Item
  | .value expr label => .value (expr.refill change) label
  | .other fragments => .other (Fragment.listRefill change fragments)

/-- Items of a block with their subqueries changed. -/
def Item.listRefill (change : Query → Query) : List Item → List Item
  | [] => []
  | item :: rest => item.refill change :: Item.listRefill change rest

/-- A table and the tables joined to it with their subqueries changed. -/
def Source.refill (change : Query → Query) : Source → Source
  | ⟨relation, joins⟩ => ⟨relation.refill change, Join.listRefill change joins⟩

/-- Tables of a block with their subqueries changed. -/
def Source.listRefill (change : Query → Query) : List Source → List Source
  | [] => []
  | source :: rest => source.refill change :: Source.listRefill change rest

/-- A join with its subqueries changed. -/
def Join.refill (change : Query → Query) : Join → Join
  | ⟨spread, kind, relation, matching, constraint⟩ =>
      ⟨spread, kind, relation.refill change, Fragment.listRefill change matching,
        constraint.refill change⟩

/-- Joins with their subqueries changed. -/
def Join.listRefill (change : Query → Query) : List Join → List Join
  | [] => []
  | join :: joins => join.refill change :: Join.listRefill change joins

/-- A constraint of a join with its subqueries changed. -/
def JoinConstraint.refill (change : Query → Query) : JoinConstraint → JoinConstraint
  | .on condition => .on (condition.refill change)
  | .using columns => .using columns
  | .natural => .natural
  | .unconstrained => .unconstrained

/-- A table with its subqueries changed.  The query that a table is stays. -/
def Relation.refill (change : Query → Query) : Relation → Relation
  | .derived lateral query label => .derived lateral (query.refill change) label
  | .nested source label => .nested (source.refill change) label
  | .other body label rest =>
      .other (Fragment.listRefill change body) label (Fragment.listRefill change rest)

end

/-- The query without any words. -/
def Query.blank : Query := ⟨false, [], .other [], []⟩

/-- The outline of a query: the query with blanks in the place of its subqueries. -/
def Query.outline (query : Query) : Query := query.refill fun _ => .blank

variable (change : Query → Query)

/-! ## Lists -/

/-- What changes a list item by item is a `map`. -/
theorem eq_map_of_cons {α β : Type} {item : α → β} {list : List α → List β}
    (nil : list [] = []) (cons : ∀ first rest, list (first :: rest) = item first :: list rest)
    (items : List α) : list items = items.map item := by
  induction items with
  | nil => exact nil
  | cons first rest ih => rw [cons, ih, List.map_cons]

@[simp] theorem Expr.listRefill_eq_map (exprs : List Expr) :
    Expr.listRefill change exprs = exprs.map (Expr.refill change) :=
  eq_map_of_cons rfl (fun _ _ => rfl) exprs

@[simp] theorem CommonTable.listRefill_eq_map (tables : List CommonTable) :
    CommonTable.listRefill change tables = tables.map (CommonTable.refill change) :=
  eq_map_of_cons rfl (fun _ _ => rfl) tables

@[simp] theorem Item.listRefill_eq_map (items : List Item) :
    Item.listRefill change items = items.map (Item.refill change) :=
  eq_map_of_cons rfl (fun _ _ => rfl) items

@[simp] theorem Source.listRefill_eq_map (sources : List Source) :
    Source.listRefill change sources = sources.map (Source.refill change) :=
  eq_map_of_cons rfl (fun _ _ => rfl) sources

@[simp] theorem Join.listRefill_eq_map (joins : List Join) :
    Join.listRefill change joins = joins.map (Join.refill change) :=
  eq_map_of_cons rfl (fun _ _ => rfl) joins

@[simp] theorem Expr.clauseRefill_eq_map (clause : Option Expr) :
    Expr.clauseRefill change clause = clause.map (Expr.refill change) := by
  cases clause <;> rfl

/-! ## Expressions -/

namespace Expr

@[simp] theorem unwrapped_refill (expr : Expr) :
    (expr.refill change).unwrapped = expr.unwrapped.refill change := by
  match expr with
  | paren inner => exact inner.unwrapped_refill
  | name _ | literal _ | unary _ _ | binary _ _ _ | between _ _ _ _ | inList _ _ _
  | inQuery _ _ _ | call _ _ _ _ | phrase _ => rfl

@[simp] theorem isValue_refill (expr : Expr) : (expr.refill change).isValue = expr.isValue := by
  unfold isValue
  rw [unwrapped_refill]
  cases expr.unwrapped <;> rfl

@[simp] theorem isLiteral_refill (expr : Expr) :
    (expr.refill change).isLiteral = expr.isLiteral := by
  unfold isLiteral
  rw [unwrapped_refill]
  cases expr.unwrapped with
  | unary op operand => cases op <;> simp [refill]
  | name _ | literal _ | paren _ | binary _ _ _ | between _ _ _ _ | inList _ _ _
  | inQuery _ _ _ | call _ _ _ _ | phrase _ => rfl

/-- The connectives of a condition stand above its subqueries. -/
theorem leaves_refill (condition : Expr) :
    (condition.refill change).leaves = condition.leaves.map (Expr.refill change) := by
  fun_induction Expr.leaves condition with
  | case1 inner ih => exact ih
  | case2 left right leftIH rightIH =>
      rw [refill, leaves, leftIH, rightIH, List.map_append]
  | case3 left right leftIH rightIH =>
      rw [refill, leaves, leftIH, rightIH, List.map_append]
  | case4 leaf notParen notAnd notOr =>
      cases leaf with
      | paren inner => exact absurd rfl (notParen inner)
      | binary left op right =>
          cases op with
          | and => exact absurd rfl (notAnd left right)
          | or => exact absurd rfl (notOr left right)
          | equal | greater | other _ => rfl
      | name _ | literal _ | unary _ _ | between _ _ _ _ | inList _ _ _ | inQuery _ _ _
      | call _ _ _ _ | phrase _ => rfl

end Expr

/-! ## Calls -/

/-- A call with its subqueries changed. -/
def Call.refill (call : Call) : Call := ⟨call.function, call.arguments.refill change⟩

theorem Expr.call?_refill (expr : Expr) :
    (expr.refill change).call? = expr.call?.map (Call.refill change) := by
  unfold Expr.call?
  rw [unwrapped_refill]
  cases expr.unwrapped <;> rfl

@[simp] theorem Call.functionName_refill (call : Call) :
    (call.refill change).functionName = call.functionName := rfl

/-- A query that a call is applied to is no argument, whatever it is. -/
theorem Call.bind_firstArgument?_refill {α : Type} (call : Call) (result : Option α) :
    ((call.refill change).firstArgument?.bind fun _ => result) =
      call.firstArgument?.bind fun _ => result := by
  cases call with
  | mk function arguments =>
      cases arguments with
      | absent | query _ => rfl
      | list quantifier items clauses =>
          cases items with
          | nil => rfl
          | cons item items => cases item <;> rfl

/-! ## The tree of parts -/

mutual

theorem Source.derivedTables_refill : (source : Source) →
    (source.refill change).derivedTables = source.derivedTables.map (Query.refill change)
  | ⟨relation, joins⟩ => by
      rw [Source.refill, Source.derivedTables, Source.derivedTables, List.map_append,
        relation.derivedTables_refill, Join.listDerivedTables_refill joins]

theorem Join.listDerivedTables_refill : (joins : List Join) →
    Join.listDerivedTables (Join.listRefill change joins) =
      (Join.listDerivedTables joins).map (Query.refill change)
  | [] => rfl
  | ⟨_, _, relation, _, _⟩ :: joins => by
      rw [Join.listRefill, Join.refill, Join.listDerivedTables, Join.listDerivedTables,
        List.map_append, relation.derivedTables_refill, Join.listDerivedTables_refill joins]

theorem Relation.derivedTables_refill : (relation : Relation) →
    (relation.refill change).derivedTables = relation.derivedTables.map (Query.refill change)
  | .derived _ _ _ => rfl
  | .nested source _ => source.derivedTables_refill
  | .other _ _ _ => rfl

end

@[simp] theorem CommonTable.query_refill (table : CommonTable) :
    (table.refill change).query = table.query.refill change := by
  cases table
  rfl

@[simp] theorem Source.joins_refill (source : Source) :
    (source.refill change).joins = source.joins.map (Join.refill change) := by
  cases source
  exact Join.listRefill_eq_map change _

namespace Block

variable (block : Block)

@[simp] theorem sources_refill :
    (block.refill change).sources = block.sources.map (Source.refill change) := by
  cases block
  exact Source.listRefill_eq_map change _

@[simp] theorem projection_refill :
    (block.refill change).projection = block.projection.map (Item.refill change) := by
  cases block
  exact Item.listRefill_eq_map change _

@[simp] theorem filter_refill :
    (block.refill change).filter = block.filter.map (Expr.refill change) := by
  cases block
  exact Expr.clauseRefill_eq_map change _

@[simp] theorem having_refill :
    (block.refill change).having = block.having.map (Expr.refill change) := by
  cases block
  exact Expr.clauseRefill_eq_map change _

theorem derivedTables_refill :
    (block.refill change).derivedTables = block.derivedTables.map (Query.refill change) := by
  rw [derivedTables, derivedTables, sources_refill, List.flatMap_map, List.map_flatMap]
  simp only [Source.derivedTables_refill]

end Block

namespace QueryPart

/-- A part with its subqueries changed. -/
def refill : QueryPart → QueryPart
  | query inner => query (inner.refill change)
  | body inner => body (inner.refill change)

/-- Below a changed part are the changed parts, and no others. -/
theorem parts_refill (part : QueryPart) :
    (part.refill change).parts = part.parts.map (refill change) := by
  match part with
  | query ⟨_, commonTables, inner, _⟩ => simp [refill, Query.refill, parts]
  | body (.block block) => simp [refill, Body.refill, parts, Block.derivedTables_refill]
  | body (.paren _) | body (.setOperation _ _ _) | body (.other _) => rfl

/-- Subqueries are not visited. -/
theorem visits_refill (part : QueryPart) :
    (part.refill change).visits = part.visits.map (refill change) := by
  induction part using QueryPart.induction with
  | step part ih =>
      rw [visits_eq, visits_eq, parts_refill, List.map_append, List.flatMap_map, List.map_flatMap,
        List.flatMap_congr ih]
      rfl

theorem block?_refill (part : QueryPart) :
    (part.refill change).block? = part.block?.map (Block.refill change) := by
  match part with
  | query _ | body (.block _) | body (.paren _) | body (.setOperation _ _ _)
  | body (.other _) => rfl

theorem visitedBlocks_refill (part : QueryPart) :
    (part.refill change).visitedBlocks = part.visitedBlocks.map (Block.refill change) := by
  rw [visitedBlocks, visitedBlocks, visits_refill, List.filterMap_map, List.map_filterMap]
  simp only [Function.comp_def, block?_refill]

theorem isSome_refusal?_refill (part : QueryPart) :
    (part.refill change).refusal?.isSome = part.refusal?.isSome := by
  match part with
  | query _ | body (.block _) | body (.paren _) | body (.setOperation _ _ _)
  | body (.other _) => rfl

end QueryPart

end SqlScenarios.Sql
