import SqlScenarios.Sql.Parser.Commands

/-!
# Statements and expressions of a text

The parsers of all forms refer to each other through a grammar.  `Grammar.within` closes the
circle for trees up to some height.  Between two lexemes a parser enters only a few forms,
so that a height in proportion to the number of lexemes is never exceeded.

`parseStatements` and `parseExpr` are the ways into this part of the library.  Queries and
expressions are read in full.  Most commands are recognised by their first word only, so that
`CREATE banana` is a statement here; a command has no conditions, whether it is read or refused.
-/

namespace SqlScenarios.Sql

open SqlScenarios.Sql.Parser

/-- The grammar for trees up to some height. -/
def Grammar.within : Nat → Grammar
  | 0 => .exhausted
  | height + 1 =>
      let inner := Grammar.within height
      let table := Parser.relation inner (Parser.rows inner)
      { operand := Parser.operand inner
        primary := Parser.primary inner
        query := Parser.query inner
        body := Parser.body inner
        source := Parser.source inner table
        joins := Parser.joins inner table
        statement := Parser.statement inner }

/-- How many forms a parser may enter between two lexemes. -/
def formsPerLexeme : Nat := 8

/-- Run a parser on a text.  Lexemes that it leaves are not looked at. -/
def runParser {α : Type} (dialect : Dialect) (text : String) (parser : Grammar → Parser α) :
    Except ParseFault α := do
  let lexemes ← (Lexer.tokens dialect text).mapError ParseFault.lexical
  let grammar := Grammar.within (formsPerLexeme * (lexemes.length + 2))
  let (result, _) ← (parser grammar { dialect, depth := maximalDepth, hierarchical := false }).run
    lexemes
  return result

/-- Read statements with semicolons between them; empty ones are skipped.  The word `END`
after a statement ends the list. -/
def statementsFrom (grammar : Grammar) : Nat → Parser (List Statement)
  | 0 => return []
  | fuel + 1 => do
      discard (many do if ← takeSign ";" then return some () else return none)
      match ← peek with
      | none => return []
      | some _ =>
          let first ← grammar.statement
          match ← peek with
          | none => return [first]
          | some next =>
              if next.token == .sign ";" then
                return first :: (← statementsFrom grammar fuel)
              else if next.keyword == "END" then return [first]
              else expected "end of statement"

/-- The statements of a text. -/
def parseStatements (dialect : Dialect) (text : String) : Except ParseFault (List Statement) :=
  runParser dialect text fun grammar => do statementsFrom grammar ((← get).length + 1)

/-- The expression that a text starts with. -/
def parseExpr (dialect : Dialect) (text : String) : Except ParseFault Expr :=
  runParser dialect text Grammar.expression

end SqlScenarios.Sql
