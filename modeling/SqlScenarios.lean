import SqlScenarios.CommandLine
import SqlScenarios.CommandLine.Arguments
import SqlScenarios.Completion
import SqlScenarios.Condition
import SqlScenarios.Condition.Filter
import SqlScenarios.Error
import SqlScenarios.Extraction
import SqlScenarios.Extraction.Blocks
import SqlScenarios.Extraction.Conditions
import SqlScenarios.Extraction.Leaves
import SqlScenarios.FileSystem
import SqlScenarios.FileSystem.Path
import SqlScenarios.FileSystem.SystemText
import SqlScenarios.Generation
import SqlScenarios.Json
import SqlScenarios.Json.Printer
import SqlScenarios.Json.Reader
import SqlScenarios.Main
import SqlScenarios.Output
import SqlScenarios.Output.Files
import SqlScenarios.Output.Report
import SqlScenarios.Record
import SqlScenarios.Record.Decoding
import SqlScenarios.Scenario
import SqlScenarios.Scenario.Ids
import SqlScenarios.Scenario.Session
import SqlScenarios.Sql.Call
import SqlScenarios.Sql.Dialect
import SqlScenarios.Sql.Parser
import SqlScenarios.Sql.Parser.Basic
import SqlScenarios.Sql.Parser.Blocks
import SqlScenarios.Sql.Parser.Calls
import SqlScenarios.Sql.Parser.Changes
import SqlScenarios.Sql.Parser.Commands
import SqlScenarios.Sql.Parser.DataType
import SqlScenarios.Sql.Parser.Expressions
import SqlScenarios.Sql.Parser.Grammar
import SqlScenarios.Sql.Parser.Literals
import SqlScenarios.Sql.Parser.Names
import SqlScenarios.Sql.Parser.Operators
import SqlScenarios.Sql.Parser.Queries
import SqlScenarios.Sql.Parser.SpecialForms
import SqlScenarios.Sql.Parser.Tables
import SqlScenarios.Sql.Precedence
import SqlScenarios.Sql.Predicate
import SqlScenarios.Sql.Printer
import SqlScenarios.Sql.Syntax
import SqlScenarios.Sql.Token
import SqlScenarios.Sql.Token.Lexer
import SqlScenarios.Strategy
import SqlScenarios.Strategy.Category
import SqlScenarios.Strategy.OperatorTable
import SqlScenarios.Text.Blank
import SqlScenarios.Text.Letter
import SqlScenarios.Text.Printable
import SqlScenarios.Text.Quoted
import SqlScenarios.Text.Ranges
import SqlScenarios.Text.Uppercase
import SqlScenarios.Proofs.Leaves
import SqlScenarios.Proofs.Regrouping
import SqlScenarios.Proofs.Composition
import SqlScenarios.Proofs.Expansion
import SqlScenarios.Proofs.OperandCounts
import SqlScenarios.Proofs.RowTruth
import SqlScenarios.Proofs.Visits
import SqlScenarios.Proofs.Refusals
import SqlScenarios.Proofs.EnclosedJoins
import SqlScenarios.Proofs.ReadingOrder
import SqlScenarios.Proofs.TableReading
import SqlScenarios.Proofs.ReportTable
import SqlScenarios.Proofs.Outcomes
import SqlScenarios.Proofs.MalformedFilters
import SqlScenarios.Proofs.Numbering
import SqlScenarios.Proofs.CategoryScenarios
import SqlScenarios.Proofs.OperatorScenarios
import SqlScenarios.Proofs.FileTrees
import SqlScenarios.Proofs.OutputFiles
import SqlScenarios.Proofs.CommandRuns
import SqlScenarios.Proofs.IdSources
import SqlScenarios.Proofs.OperatorTexts
import SqlScenarios.Proofs.Records
import SqlScenarios.Proofs.JsonText
import SqlScenarios.Proofs.OutputJson
import SqlScenarios.Proofs.OutputRuns
import SqlScenarios.Proofs.GroupConditions
import SqlScenarios.Proofs.FailedWrites
import SqlScenarios.Proofs.UnescapedNumbers
import SqlScenarios.Proofs.Refilling
import SqlScenarios.Proofs.Subqueries
import SqlScenarios.Proofs.SignedLiterals
import SqlScenarios.Proofs.SharedLists
import SqlScenarios.Proofs.OutputNames
import SqlScenarios.Proofs.OperatorSpellings
