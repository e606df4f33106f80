import SqlScenarios.Extraction.Blocks
import SqlScenarios.Extraction.Conditions

/-!
# Extraction

The model of a statement holds the conditions of all blocks that the statement reads its rows
from, block after block.  A statement that is no query has no model.
-/

namespace SqlScenarios

open Sql

/-- The keyword that a statement starts with. -/
def Sql.Statement.keyword (statement : Statement) : String :=
  Text.uppercase ((Text.firstWord? statement.toSql).getD "empty statement")

/-- The conditions of blocks, in their order. -/
def QueryModel.ofBlocks (blocks : List Block) : Except ShapeFault QueryModel := do
  let filters ← Collector.collect (blocks.forM fun block => block.filter.forM addFilters)
  let havings ← Collector.collect (blocks.forM fun block => block.having.forM addHavings)
  return {
    joins := blocks.flatMap Block.joinConditions
    filters
    aggregates := blocks.flatMap Block.aggregates
    havingConditions := havings }

/-- The conditions of a query. -/
def QueryModel.ofQuery (query : Query) : Except ShapeFault QueryModel := do
  QueryModel.ofBlocks (← query.blocks)

/-- The conditions of a statement. -/
def QueryModel.ofStatement : Statement → Except ShapeFault QueryModel
  | .query query => QueryModel.ofQuery query
  | .command fragments => throw (.notQuery (Statement.command fragments).keyword)

end SqlScenarios
