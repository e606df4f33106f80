import SqlScenarios.Error
import SqlScenarios.Extraction
import SqlScenarios.Output
import SqlScenarios.Sql.Parser

/-!
# From text to scenarios

A text holds one statement, which has to be a query.  Its conditions make up a model, from
which a strategy generates scenarios.
-/

namespace SqlScenarios

open Sql

/-- The dialect with a name. -/
def dialectNamed (name : String) : Except Error Dialect :=
  match Dialect.ofName? name with
  | some dialect => .ok dialect
  | none => .error (.unknownDialect name)

/-- The only one of some statements. -/
def singleStatement : List Statement → Except ShapeFault Statement
  | [statement] => .ok statement
  | [] => .error .noStatement
  | statements => .error (.severalStatements statements.length)

/-- The statement that a text is. -/
def parseStatement (dialect : Dialect) (sql : String) : Except Error Statement := do
  let statements ← (parseStatements dialect sql).mapError Error.parse
  (singleStatement statements).mapError Error.unsupportedShape

/-- The conditions of the query that a text is. -/
def QueryModel.ofText (dialect : Dialect) (sql : String) : Except Error QueryModel := do
  let statement ← parseStatement dialect sql
  (QueryModel.ofStatement statement).mapError Error.unsupportedShape

/-- The scenarios that a strategy generates. -/
def Strategy.scenarios (strategy : Strategy) (model : QueryModel) :
    Except Error (List Scenario) :=
  (strategy.generate model).mapError Error.malformedCondition

/-- The scenarios for the query that a text is. -/
def generateScenarios (dialect : Dialect) (strategy : Strategy) (sql : String) :
    Except Error (List Scenario) := do
  let model ← QueryModel.ofText dialect sql
  strategy.scenarios model

end SqlScenarios
