import SqlScenarios.Completion
import SqlScenarios.Condition.Filter
import SqlScenarios.Extraction.Leaves
import SqlScenarios.FileSystem
import SqlScenarios.Record.Decoding
import SqlScenarios.Sql.Parser.Basic
import SqlScenarios.Strategy

/-!
# Errors

Everything that can go wrong between a text and the written scenarios, by cause.
-/

namespace SqlScenarios

/-- Why there is no result. -/
inductive Error where
  | parse (fault : Sql.ParseFault)
  | unknownDialect (name : String)
  | unsupportedShape (fault : ShapeFault)
  | malformedCondition (fault : MalformedCondition)
  | completion (fault : CompletionFault)
  | invalidOutputName (name : String)
  | file (fault : FileFault)
  | record (fault : DecodeFault)

/-- The wording of an error. -/
def Error.message : Error → String
  | parse fault => "SQL parse error: sql parser error: " ++ fault.message
  | unknownDialect name => "Unknown SQL dialect: " ++ name
  | unsupportedShape fault => "Unsupported query shape: " ++ fault.message
  | malformedCondition fault => fault.message
  | completion fault => fault.message
  | invalidOutputName name => "Invalid output name '" ++ name ++ "'"
  | file fault => "I/O error: " ++ fault.message
  | record fault => "JSON error: " ++ fault.message

end SqlScenarios
