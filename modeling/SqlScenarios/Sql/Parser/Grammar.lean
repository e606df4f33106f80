import SqlScenarios.Sql.Parser.DataType
import SqlScenarios.Sql.Precedence

/-!
# The grammar as a record

Expressions hold queries, queries hold tables, and tables hold expressions.  The parsers of
these forms call each other through one record, so that each of them can be defined in a
module of its own.  `operand` takes the level of the operator whose operand is read.
-/

namespace SqlScenarios.Sql

/-- The parsers that call each other. -/
structure Grammar where
  operand : Nat → Parser Expr
  primary : Parser Expr
  query : Parser Query
  body : Nat → Parser Body
  source : Parser Source
  joins : Parser (List Join)
  statement : Parser Statement

/-- The grammar that always runs out of depth. -/
def Grammar.exhausted : Grammar where
  operand _ := throw .tooDeep
  primary := throw .tooDeep
  query := throw .tooDeep
  body _ := throw .tooDeep
  source := throw .tooDeep
  joins := throw .tooDeep
  statement := throw .tooDeep

/-- Read an expression. -/
def Grammar.expression (grammar : Grammar) : Parser Expr := grammar.operand 0

/-- Read an operand of an operator of the given group. -/
def Grammar.operandOf (grammar : Grammar) (group : Precedence) : Parser Expr := do
  grammar.operand ((← read).dialect.level group)

end SqlScenarios.Sql
