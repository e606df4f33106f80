import SqlScenarios.Extraction.Leaves

/-!
# Blocks of a query

The blocks that a query reads its rows from: those of its common tables, then those of the
queries that stand for tables, then the block itself.  Joined tables in parentheses are
entered, and so are both sides of an operator on sets of rows.  Queries inside expressions
are not.  A body that lists its rows without a block is refused.
-/

namespace SqlScenarios.Sql

mutual

/-- The blocks of a query. -/
def Query.blocks : Query → Except ShapeFault (List Block)
  | ⟨_, commonTables, body, _⟩ => do
      let first ← CommonTable.listBlocks commonTables
      let rest ← body.blocks
      return first ++ rest

/-- The blocks of common tables. -/
def CommonTable.listBlocks : List CommonTable → Except ShapeFault (List Block)
  | [] => return []
  | ⟨_, query, _⟩ :: tables => do
      let first ← query.blocks
      let rest ← CommonTable.listBlocks tables
      return first ++ rest

/-- The blocks of a body. -/
def Body.blocks : Body → Except ShapeFault (List Block)
  | .block block => block.blocks
  | .paren query => query.blocks
  | .setOperation left _ right => do
      let first ← left.blocks
      let rest ← right.blocks
      return first ++ rest
  | .other fragments => throw (.bodyNotSelect (Fragment.listToSql fragments))

/-- The blocks of the tables of a block, and the block. -/
def Block.blocks : Block → Except ShapeFault (List Block)
  | ⟨form, head, projection, target, sources, preFilter, filter, grouping, having, tail⟩ => do
      let first ← Source.listBlocks sources
      return first ++
        [⟨form, head, projection, target, sources, preFilter, filter, grouping, having, tail⟩]

/-- The blocks of a table and of the tables joined to it. -/
def Source.blocks : Source → Except ShapeFault (List Block)
  | ⟨relation, joins⟩ => do
      let first ← relation.blocks
      let rest ← Join.listBlocks joins
      return first ++ rest

/-- The blocks of tables. -/
def Source.listBlocks : List Source → Except ShapeFault (List Block)
  | [] => return []
  | source :: sources => do
      let first ← source.blocks
      let rest ← Source.listBlocks sources
      return first ++ rest

/-- The blocks of joined tables. -/
def Join.listBlocks : List Join → Except ShapeFault (List Block)
  | [] => return []
  | ⟨_, _, relation, _, _⟩ :: joins => do
      let first ← relation.blocks
      let rest ← Join.listBlocks joins
      return first ++ rest

/-- The blocks of a single table. -/
def Relation.blocks : Relation → Except ShapeFault (List Block)
  | .derived _ query _ => query.blocks
  | .nested source _ => source.blocks
  | .other _ _ _ => return []

end

end SqlScenarios.Sql
