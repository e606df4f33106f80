import SqlScenarios.Proofs.Leaves
import SqlScenarios.Proofs.QueryTree

/-!
# Extraction composes

The conditions of a query are put together from the conditions of its parts: those of an
operator on sets of rows from those of its sides, those of a query with common tables from
those of the tables and of the body, and those of a block from the queries that stand for
tables in it and from what the block says itself.  Nothing else enters, and a query has
conditions exactly if all parts have.
-/

namespace SqlScenarios

open Sql

namespace QueryModel

/-! ## Models one after the other -/

/-- The lists of one model, each followed by the list of another one. -/
def append (first rest : QueryModel) : QueryModel where
  joins := first.joins ++ rest.joins
  filters := first.filters ++ rest.filters
  aggregates := first.aggregates ++ rest.aggregates
  caseConditions := first.caseConditions ++ rest.caseConditions
  havingConditions := first.havingConditions ++ rest.havingConditions

instance : Append QueryModel := ⟨append⟩

theorem append_def (first rest : QueryModel) : first ++ rest = first.append rest := rfl

theorem empty_append (model : QueryModel) : ({} : QueryModel) ++ model = model := by
  simp [append_def, append]

theorem append_empty (model : QueryModel) : model ++ ({} : QueryModel) = model := by
  simp [append_def, append]

theorem append_assoc (first second third : QueryModel) :
    first ++ second ++ third = first ++ (second ++ third) := by
  simp [append_def, append]

/-- The models of some parts one after the other, if every part has a model. -/
def concat : List (Option QueryModel) → Option QueryModel
  | [] => some {}
  | part :: parts => do
      let first ← part
      let rest ← concat parts
      return first ++ rest

theorem concat_append (first rest : List (Option QueryModel)) :
    concat (first ++ rest) = do
      let firstModel ← concat first
      let restModel ← concat rest
      return firstModel ++ restModel := by
  induction first with
  | nil => simp [concat, empty_append]
  | cons part parts ih =>
      rw [List.cons_append, concat, concat, ih]
      cases part <;> cases concat parts <;> cases concat rest <;> simp [append_assoc]

theorem concat_singleton (part : Option QueryModel) : concat [part] = part := by
  cases part with
  | none => rfl
  | some model => simp [concat, append_empty]

/-- A part without conditions adds nothing. -/
theorem concat_append_empty (parts : List (Option QueryModel)) :
    concat (parts ++ [some ({} : QueryModel)]) = concat parts := by
  rw [concat_append, concat_singleton]
  cases concat parts <;> simp [append_empty]

/-- There is a model of all parts exactly if every part has one. -/
theorem isSome_concat (parts : List (Option QueryModel)) :
    (concat parts).isSome ↔ ∀ part ∈ parts, part.isSome := by
  induction parts with
  | nil => simp [concat]
  | cons part parts ih =>
      rw [List.forall_mem_cons, ← ih, concat]
      cases part <;> cases concat parts <;> simp

end QueryModel

/-! ## Conditions of queries, bodies and blocks -/

/-- The conditions of a query, if it is not refused. -/
def Sql.Query.conditions? (query : Query) : Option QueryModel :=
  (QueryModel.ofQuery query).toOption

/-- The conditions of the query that only has a body. -/
def Sql.Body.conditions? (body : Body) : Option QueryModel :=
  Query.conditions? ⟨false, [], body, []⟩

/-- What a block says itself: the conditions of its filter, of the tables joined directly in it,
of its values and of its groups. -/
def Sql.Block.ownConditions? (block : Block) : Option QueryModel := do
  let filters ← (Collector.collect (block.filter.forM addFilters)).toOption
  let havings ← (Collector.collect (block.having.forM addHavings)).toOption
  return {
    joins := block.joinConditions
    filters
    aggregates := block.aggregates
    havingConditions := havings }

/-- Blocks give what they say themselves, one after the other. -/
theorem toOption_ofBlocks (blocks : List Block) :
    (QueryModel.ofBlocks blocks).toOption =
      QueryModel.concat (blocks.map Block.ownConditions?) := by
  have single (block : Block) :
      (QueryModel.ofBlocks [block]).toOption = block.ownConditions? := by
    simp only [QueryModel.ofBlocks, Block.ownConditions?, List.forM_eq_forM, List.forM_cons,
      List.forM_nil, bind_pure_unit, List.flatMap_singleton]
    cases Collector.collect (block.filter.forM addFilters) <;>
      cases Collector.collect (block.having.forM addHavings) <;> rfl
  have split (block : Block) (blocks : List Block) :
      (QueryModel.ofBlocks (block :: blocks)).toOption = do
        let first ← (QueryModel.ofBlocks [block]).toOption
        let rest ← (QueryModel.ofBlocks blocks).toOption
        return first ++ rest := by
    simp only [QueryModel.ofBlocks_eq, List.flatMap_cons, List.flatMap_nil, List.append_nil,
      List.findSome?_append, List.filterMap_append]
    cases block.filterLeaves.findSome? Expr.emptyList? <;>
      cases (blocks.flatMap Block.filterLeaves).findSome? Expr.emptyList? <;> rfl
  induction blocks with
  | nil => rfl
  | cons block blocks ih => rw [split, single, ih, List.map_cons, QueryModel.concat]

/-! ## Conditions of parts -/

namespace Sql.QueryPart

/-- The conditions of a part of a query, if it is not refused. -/
def conditions? : QueryPart → Option QueryModel
  | query inner => inner.conditions?
  | body inner => inner.conditions?

/-- What a part says itself: nothing unless it is a block, and a body that lists its rows is
refused. -/
def ownConditions? : QueryPart → Option QueryModel
  | body (.block block) => block.ownConditions?
  | body (.other _) => none
  | query _ | body (.paren _) | body (.setOperation _ _ _) => some {}

/-- The conditions of a part are what its blocks say themselves. -/
theorem conditions?_eq_bind (part : QueryPart) :
    part.conditions? = part.blocks.toOption.bind fun found =>
      QueryModel.concat (found.map Block.ownConditions?) := by
  have ofQuery (query : Query) :
      query.conditions? = query.blocks.toOption.bind fun found =>
        QueryModel.concat (found.map Block.ownConditions?) := by
    rw [Query.conditions?, QueryModel.ofQuery]
    cases query.blocks with
    | error fault => rfl
    | ok found => exact toOption_ofBlocks found
  cases part with
  | query inner => exact ofQuery inner
  | body inner =>
      have alone : Query.blocks ⟨false, [], inner, []⟩ = inner.blocks := by
        simp [Query.blocks, CommonTable.listBlocks]
      rw [conditions?, Body.conditions?, ofQuery, alone]
      rfl

theorem ownConditions?_eq_bind (part : QueryPart) :
    part.ownConditions? = part.ownBlocks.toOption.bind fun own =>
      QueryModel.concat (own.map Block.ownConditions?) := by
  match part with
  | body (.block block) => exact (QueryModel.concat_singleton block.ownConditions?).symm
  | query _ | body (.paren _) | body (.setOperation _ _ _) | body (.other _) => rfl

theorem concat_map_conditions? (parts : List QueryPart) :
    QueryModel.concat (parts.map conditions?) =
      (parts.mapM blocks).toOption.bind fun found =>
        QueryModel.concat (found.flatten.map Block.ownConditions?) := by
  induction parts with
  | nil => rfl
  | cons part parts ih =>
      rw [List.map_cons, QueryModel.concat, ih, conditions?_eq_bind, List.mapM_cons]
      cases part.blocks with
      | error fault => rfl
      | ok first =>
          cases parts.mapM blocks with
          | error fault => exact Option.bind_fun_none _
          | ok rest =>
              change _ = QueryModel.concat ((first :: rest).flatten.map Block.ownConditions?)
              rw [List.flatten_cons, List.map_append, QueryModel.concat_append]
              rfl

/-- The conditions of a part are those of the parts below it, and then what it says itself. -/
theorem conditions?_eq_concat (part : QueryPart) :
    part.conditions? =
      QueryModel.concat (part.parts.map conditions? ++ [part.ownConditions?]) := by
  rw [QueryModel.concat_append, concat_map_conditions?, QueryModel.concat_singleton,
    ownConditions?_eq_bind, conditions?_eq_bind, blocks_eq]
  cases part.parts.mapM blocks with
  | error fault => rfl
  | ok inner =>
      cases part.ownBlocks with
      | error fault => exact (Option.bind_fun_none _).symm
      | ok own =>
          change QueryModel.concat ((inner.flatten ++ own).map Block.ownConditions?) = _
          rw [List.map_append, QueryModel.concat_append]
          rfl

end Sql.QueryPart

/-- Extraction composes.  A query gives what its common tables give and then what its body
gives, an operator on sets of rows what its sides give, parentheses what they enclose, and a
block what the queries that stand for tables in it give, in their order, and then what it says
itself.  A part has conditions exactly if the parts below it have and it is not refused itself,
and a query gives what the blocks at its places say, each of them once. -/
theorem conditions_compose :
    (∀ recursive commonTables body tail,
      Query.conditions? ⟨recursive, commonTables, body, tail⟩ =
        QueryModel.concat (commonTables.map (·.query.conditions?) ++ [body.conditions?])) ∧
    (∀ left operation right,
      (Body.setOperation left operation right).conditions? =
        QueryModel.concat [left.conditions?, right.conditions?]) ∧
    (∀ query, (Body.paren query).conditions? = query.conditions?) ∧
    (∀ block, (Body.block block).conditions? =
      QueryModel.concat (block.derivedTables.map Query.conditions? ++ [block.ownConditions?])) ∧
    (∀ part : QueryPart, part.conditions?.isSome ↔
      (∀ inner ∈ part.parts, inner.conditions?.isSome) ∧ part.ownConditions?.isSome) ∧
    (∀ (query : Query) (model : QueryModel), query.conditions? = some model →
      ∃ entries, QueryPart.Enumerates (QueryPart.query query).blockAt? entries ∧
        QueryModel.concat (entries.map (·.2.ownConditions?)) = some model) := by
  refine ⟨?_, ?_, ?_, ?_, ?_, ?_⟩
  · intro recursive commonTables body tail
    have composed :=
      QueryPart.conditions?_eq_concat (.query ⟨recursive, commonTables, body, tail⟩)
    rw [QueryPart.ownConditions?, QueryModel.concat_append_empty] at composed
    simpa [QueryPart.parts, QueryPart.conditions?, Function.comp_def] using composed
  · intro left operation right
    have composed := QueryPart.conditions?_eq_concat (.body (.setOperation left operation right))
    rw [QueryPart.ownConditions?, QueryModel.concat_append_empty] at composed
    exact composed
  · intro query
    have composed := QueryPart.conditions?_eq_concat (.body (.paren query))
    rw [QueryPart.ownConditions?, QueryModel.concat_append_empty] at composed
    exact composed.trans (QueryModel.concat_singleton query.conditions?)
  · intro block
    have composed := QueryPart.conditions?_eq_concat (.body (.block block))
    simpa [QueryPart.parts, QueryPart.conditions?, QueryPart.ownConditions?,
      Function.comp_def] using composed
  · intro part
    rw [QueryPart.conditions?_eq_concat, QueryModel.isSome_concat, List.forall_mem_append,
      List.forall_mem_map, List.forall_mem_singleton]
  · intro query model succeeded
    have joined := QueryPart.conditions?_eq_bind (.query query)
    rw [QueryPart.conditions?, succeeded] at joined
    cases found : (QueryPart.query query).blocks with
    | error fault =>
        rw [found] at joined
        cases joined
    | ok blocks =>
        rw [found] at joined
        obtain ⟨entries, listed, rfl⟩ := QueryPart.exists_enumeration (.query query) found
        refine ⟨entries, listed, ?_⟩
        rw [joined]
        simp [Except.toOption, Function.comp_def]

/-- A block that reads tables and keeps the rows that satisfy a comparison. -/
def comparingBlock (sources : List Source) (column : String) (op : BinaryOp) (value : String) :
    Block where
  form := .selectFirst
  head := []
  projection := []
  target := []
  sources
  preFilter := []
  filter := some (.binary (.name [⟨column, none⟩]) op (.literal (.number value false)))
  grouping := []
  having := none
  tail := []

/-- A union, of which the left side reads a query with a common table that stands for a table
in parentheses. -/
def layeredQuery : Query :=
  let common : CommonTable :=
    ⟨"d", ⟨false, [], .block (comparingBlock [] "b" .greater "2"), []⟩, ""⟩
  let derived : Query := ⟨false, [common], .block (comparingBlock [] "c" .equal "3"), []⟩
  let source : Source := ⟨.nested ⟨.derived false derived none, []⟩ none, []⟩
  ⟨false, [], .setOperation (.block (comparingBlock [source] "a" .equal "1")) "UNION"
    (.block (comparingBlock [] "e" .greater "4")), []⟩

theorem conditions_compose_layered :
    let model : QueryModel :=
      { filters := [⟨"b", .greater, ["2"]⟩, ⟨"c", .equal, ["3"]⟩, ⟨"a", .equal, ["1"]⟩,
          ⟨"e", .greater, ["4"]⟩] }
    layeredQuery.conditions? = some model ∧
      ∃ entries, QueryPart.Enumerates (QueryPart.query layeredQuery).blockAt? entries ∧
        QueryModel.concat (entries.map (·.2.ownConditions?)) = some model := by
  intro model
  have succeeded : layeredQuery.conditions? = some model := by rfl
  exact ⟨succeeded, conditions_compose.2.2.2.2.2 layeredQuery model succeeded⟩

end SqlScenarios
