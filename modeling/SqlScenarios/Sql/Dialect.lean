import SqlScenarios.Text.Blank
import SqlScenarios.Text.Letter

/-!
# Dialects

SQL is read in one of thirteen dialects.  A dialect decides which characters form names,
which quotation marks delimit names and strings, and which optional clauses are understood.
Every such decision is one predicate on `Dialect`, so that the lexer and the parser never
compare dialects themselves.
-/

namespace SqlScenarios.Sql

open SqlScenarios.Text

/-- A dialect of SQL. -/
inductive Dialect where
  | generic
  | mySql
  | postgreSql
  | hive
  | sqlite
  | snowflake
  | redshift
  | msSql
  | clickHouse
  | bigQuery
  | ansi
  | duckDb
  | databricks
  deriving DecidableEq, Repr

namespace Dialect

/-! ## Names -/

/-- The lower-case image of a character of a dialect name.  Only ASCII letters and the
Kelvin sign have images that can occur in a known name. -/
def lowerNameChar (c : Char) : Char :=
  if c.toNat = 0x212A then 'k' else c.toLower

/-- The dialect with the given name, in any letter case and with blanks around it. -/
def ofName? (name : String) : Option Dialect :=
  match String.ofList ((trimChars name.toList).map lowerNameChar) with
  | "generic" => some generic
  | "mysql" => some mySql
  | "postgresql" | "postgres" => some postgreSql
  | "hive" => some hive
  | "sqlite" => some sqlite
  | "snowflake" => some snowflake
  | "redshift" => some redshift
  | "mssql" => some msSql
  | "clickhouse" => some clickHouse
  | "bigquery" => some bigQuery
  | "ansi" => some ansi
  | "duckdb" => some duckDb
  | "databricks" => some databricks
  | _ => none

/-- The name of the dialect that is used when none is named. -/
def defaultName : String := "generic"

/-! ## Characters -/

/-- Whether a character is a letter or digit of ASCII. -/
def isAsciiWord (c : Char) : Bool := c.isAlpha || c.isDigit

/-- Whether a character may start a plain name. -/
def startsName (dialect : Dialect) (c : Char) : Bool :=
  match dialect with
  | generic => isAlphabetic c || c == '_' || c == '#' || c == '@'
  | mySql => c.isAlpha || c == '_' || c == '$' || c == '@' || (0x80 ≤ c.toNat && c.toNat ≤ 0xFFFF)
  | postgreSql => isAlphabetic c || c == '_' || 0x80 ≤ c.toNat
  | hive => isAsciiWord c || c == '$'
  | sqlite => c.isAlpha || c == '_' || (0x7F ≤ c.toNat && c.toNat ≤ 0xFFFF)
  | snowflake => c.isAlpha || c == '_'
  | redshift => isAlphabetic c || c == '_' || c == '#' || 0x80 ≤ c.toNat
  | msSql => isAlphabetic c || c == '_' || c == '#' || c == '@'
  | clickHouse => isAlphabetic c || c == '_'
  | bigQuery => c.isAlpha || c == '_' || c == '@'
  | ansi => c.isAlpha
  | duckDb => isAlphabetic c || c == '_'
  | databricks => c.isAlpha || c == '_'

/-- Whether a character may stand inside a plain name. -/
def continuesName (dialect : Dialect) (c : Char) : Bool :=
  match dialect with
  | generic => isAlphabetic c || c.isDigit || c == '@' || c == '$' || c == '#' || c == '_'
  | mySql => mySql.startsName c || c.isDigit
  | postgreSql => isAlphabetic c || c.isDigit || c == '$' || c == '_' || 0x80 ≤ c.toNat
  | hive => isAsciiWord c || c == '_' || c == '$' || c == '\x7b' || c == '\x7d'
  | sqlite => sqlite.startsName c || c.isDigit
  | snowflake => isAsciiWord c || c == '$' || c == '_'
  | redshift =>
      isAlphabetic c || c.isDigit || c == '$' || c == '_' || c == '#' || 0x80 ≤ c.toNat
  | msSql => isAlphabetic c || c.isDigit || c == '@' || c == '$' || c == '#' || c == '_'
  | clickHouse => clickHouse.startsName c || c.isDigit
  | bigQuery => bigQuery.startsName c || c.isDigit
  | ansi => isAsciiWord c || c == '_'
  | duckDb => isAlphabetic c || c.isDigit || c == '$' || c == '_'
  | databricks => isAsciiWord c || c == '_'

/-- Whether a character opens a delimited name. -/
def opensDelimitedName (dialect : Dialect) (c : Char) : Bool :=
  match dialect with
  | mySql | bigQuery => c == '`'
  | postgreSql | redshift => c == '"'
  | databricks => c == '`'
  | sqlite => c == '`' || c == '"' || c == '['
  | msSql => c == '"' || c == '['
  | _ => c == '"' || c == '`'

/-! ## Lexical features -/

/-- Whether a backslash escapes the next character of a string. -/
def escapesWithBackslash : Dialect → Bool
  | mySql | bigQuery | snowflake | clickHouse => true
  | _ => false

/-- Whether `E'..'` is a string with escapes. -/
def hasEscapeStrings : Dialect → Bool
  | generic | postgreSql | redshift => true
  | _ => false

/-- Whether `U&'..'` is a string of escaped code points. -/
def hasCodePointStrings : Dialect → Bool
  | generic | postgreSql => true
  | _ => false

/-- Whether `B'..'` is a string of bytes. -/
def hasByteStrings : Dialect → Bool
  | generic | bigQuery | postgreSql | mySql => true
  | _ => false

/-- Whether `R'..'` is a string without escapes. -/
def hasRawStrings : Dialect → Bool
  | generic | bigQuery => true
  | _ => false

/-- Whether three quotation marks in a row open a string. -/
def hasTripleQuotes : Dialect → Bool
  | bigQuery => true
  | _ => false

/-- Whether a number sign opens a comment. -/
def commentsWithNumberSign : Dialect → Bool
  | snowflake | bigQuery | mySql | hive => true
  | _ => false

/-- Whether two slashes open a comment. -/
def commentsWithSlashes : Dialect → Bool
  | snowflake => true
  | _ => false

/-- Whether two slashes divide integers. -/
def dividesWithSlashes : Dialect → Bool
  | duckDb | generic => true
  | _ => false

/-- Whether two dashes open a comment only before a space. -/
def commentNeedsSpace : Dialect → Bool
  | mySql => true
  | _ => false

/-- Whether comments in slashes and stars nest. -/
def nestsComments : Dialect → Bool
  | generic | postgreSql | msSql | clickHouse | databricks | ansi | duckDb => true
  | _ => false

/-- Whether a dollar sign may stand inside a placeholder, so that it opens no string. -/
def dollarInPlaceholders : Dialect → Bool
  | sqlite => true
  | _ => false

/-- Whether a name may start with digits. -/
def namesStartWithDigits : Dialect → Bool
  | mySql | hive => true
  | _ => false

/-- Whether underscores may separate the digits of a number. -/
def underscoresInNumbers : Dialect → Bool
  | postgreSql | clickHouse => true
  | _ => false

/-- Whether operators can be made up of any operator characters. -/
def hasCustomOperators : Dialect → Bool
  | postgreSql => true
  | _ => false

/-- Whether a question mark is an operator and not a placeholder. -/
def questionMarkIsOperator : Dialect → Bool
  | postgreSql | redshift => true
  | _ => false

/-! ## Expressions -/

/-- Whether an `IN` list may be empty. -/
def allowsEmptyInList : Dialect → Bool
  | sqlite => true
  | _ => false

/-- Whether every list may end with a comma. -/
def allowsTrailingCommas : Dialect → Bool
  | bigQuery | duckDb => true
  | _ => false

/-- Whether `TRUE` and `FALSE` are literals. -/
def hasBooleanLiterals : Dialect → Bool
  | msSql => false
  | _ => true

/-- Whether a name before an argument is any expression. -/
def argumentNamesAreExpressions : Dialect → Bool
  | postgreSql | msSql => true
  | _ => false

/-- The signs that can stand between the name of an argument and its value. -/
def argumentSigns : Dialect → List String
  | generic => ["=>", ":="]
  | msSql => [":"]
  | duckDb => ["=>", "=", ":="]
  | postgreSql => ["=>", ":="]
  | _ => ["=>"]

/-- Whether an aggregate may carry a `FILTER` clause. -/
def hasAggregateFilter : Dialect → Bool
  | generic | ansi | postgreSql | sqlite | duckDb | hive | clickHouse | databricks => true
  | _ => false

/-- Whether a call may have a list of parameters before its arguments. -/
def hasCallParameters : Dialect → Bool
  | generic | clickHouse => true
  | _ => false

/-- Whether a query may be the argument of a call without parentheses of its own. -/
def queryAsArgument : Dialect → Bool
  | snowflake => true
  | _ => false

/-- Whether `IGNORE NULLS` may stand inside the arguments of a call. -/
def nullTreatmentInArguments : Dialect → Bool
  | generic | bigQuery | snowflake | duckDb => true
  | _ => false

/-- Whether `HAVING MAX` may stand inside the arguments of a call. -/
def havingBoundInArguments : Dialect → Bool
  | generic | bigQuery => true
  | _ => false

/-- Whether `SEPARATOR` may stand inside the arguments of a call. -/
def separatorInArguments : Dialect → Bool
  | generic | mySql => true
  | _ => false

/-- Whether the session user and its kin are calls without an argument list. -/
def userNamesAreCalls : Dialect → Bool
  | generic | postgreSql => true
  | _ => false

/-- Whether `TRY_CONVERT` is understood. -/
def hasTryConvert : Dialect → Bool
  | generic | msSql => true
  | _ => false

/-- Whether the type stands before the value in `CONVERT`. -/
def convertsTypeFirst : Dialect → Bool
  | msSql => true
  | _ => false

/-- Whether `EXISTS` is an ordinary function unless a query follows. -/
def existsIsFunction : Dialect → Bool
  | databricks => true
  | _ => false

/-- Whether `ARRAY(..)` takes a query. -/
def arrayTakesQuery : Dialect → Bool
  | clickHouse | databricks => false
  | _ => true

/-- Whether `STRUCT(..)` is a literal. -/
def hasStructLiterals : Dialect → Bool
  | generic | bigQuery | databricks => true
  | _ => false

/-- Whether `MATCH .. AGAINST` is understood. -/
def hasMatchAgainst : Dialect → Bool
  | generic | mySql => true
  | _ => false

/-- Whether braces enclose a dictionary. -/
def hasDictionaries : Dialect → Bool
  | generic | duckDb | clickHouse => true
  | _ => false

/-- Whether `MAP` before braces is a literal. -/
def hasMapLiterals : Dialect → Bool
  | generic | duckDb | clickHouse => true
  | _ => false

/-- Whether the characters to trim may follow a comma. -/
def trimsCharacters : Dialect → Bool
  | generic | duckDb | snowflake | bigQuery => true
  | _ => false

/-- Whether a comma may stand for `FROM` inside `EXTRACT`. -/
def extractWithComma : Dialect → Bool
  | generic | snowflake => true
  | _ => false

/-- Whether any name can be extracted from a date. -/
def extractsAnyField : Dialect → Bool
  | generic | postgreSql | redshift | snowflake => true
  | _ => false

/-- Whether the field to extract may be quoted. -/
def extractsQuotedField : Dialect → Bool
  | generic | snowflake => true
  | _ => false

/-- Whether an interval always names its unit. -/
def intervalNeedsUnit : Dialect → Bool
  | ansi | bigQuery | clickHouse | databricks | hive | mySql => true
  | _ => false

/-- Whether `INTERVAL` may be the name of a column. -/
def intervalMayBeName : Dialect → Bool
  | snowflake => true
  | _ => false

/-- Whether an exclamation mark negates what follows it. -/
def negatesWithExclamationMark : Dialect → Bool
  | hive => true
  | _ => false

/-- Whether an exclamation mark after a value is the factorial. -/
def hasFactorial : Dialect → Bool
  | postgreSql => true
  | _ => false

/-- Whether the operators on bits, ranges and roots of the `pg` family are understood. -/
def hasPrefixRoots : Dialect → Bool
  | postgreSql => true
  | _ => false

/-- Whether operators bind as in PostgreSQL, where those outside the standard form one group. -/
def hasOwnPrecedences : Dialect → Bool
  | postgreSql => true
  | _ => false

/-- Whether two angle brackets shift bits. -/
def shiftsWithBrackets : Dialect → Bool
  | generic | postgreSql | duckDb | redshift | bigQuery => true
  | _ => false

/-- Whether a number sign is an operator on bits. -/
def numberSignIsOperator : Dialect → Bool
  | postgreSql | redshift => true
  | _ => false

/-- Whether two ampersands test for overlap. -/
def ampersandsOverlap : Dialect → Bool
  | generic | postgreSql | redshift => true
  | _ => false

/-- Whether a caret and an at sign test for a common start. -/
def caretAtIsOperator : Dialect → Bool
  | generic | postgreSql => true
  | _ => false

/-- Whether `OPERATOR(..)` names an operator. -/
def namesOperators : Dialect → Bool
  | generic | postgreSql => true
  | _ => false

/-- Whether `DIV` divides integers. -/
def hasDivWord : Dialect → Bool
  | mySql => true
  | _ => false

/-- Whether `REGEXP` and `MATCH` are ordinary operators between two operands. -/
def matchesWithWords : Dialect → Bool
  | sqlite => true
  | _ => false

/-- Whether `NOTNULL` is an operator. -/
def hasNotNullOperator : Dialect → Bool
  | postgreSql | sqlite | duckDb => true
  | _ => false

/-- Whether a colon enters a nested value. -/
def colonEntersValues : Dialect → Bool
  | snowflake | databricks => true
  | _ => false

/-- Whether a bracket after a value enters nested values. -/
def bracketEntersValues : Dialect → Bool
  | redshift => true
  | _ => false

/-- Whether a type may be followed by brackets. -/
def hasBracketTypes : Dialect → Bool
  | generic | postgreSql | redshift | duckDb | snowflake | bigQuery | clickHouse => true
  | _ => false

/-- Whether the type of arrays names no type of elements. -/
def hasBareArrayTypes : Dialect → Bool
  | snowflake => true
  | _ => false

/-- Whether the type of elements of an array stands in parentheses. -/
def parenthesizesElementTypes : Dialect → Bool
  | clickHouse => true
  | _ => false

/-! ## Queries -/

/-- Whether a query may start with `FROM`. -/
def startsWithFrom : Dialect → Bool
  | generic | duckDb | clickHouse => true
  | _ => false

/-- Whether a `SELECT` may list nothing. -/
def allowsEmptyProjection : Dialect → Bool
  | generic | postgreSql => true
  | _ => false

/-- Whether the list of a `SELECT` may end with a comma. -/
def allowsTrailingProjectionComma : Dialect → Bool
  | generic | snowflake | bigQuery | duckDb => true
  | _ => false

/-- Whether `TOP` stands before `DISTINCT`. -/
def topBeforeDistinct : Dialect → Bool
  | redshift => true
  | _ => false

/-- Whether `SELECT AS STRUCT` and `SELECT AS VALUE` are understood. -/
def hasValueTables : Dialect → Bool
  | bigQuery => true
  | _ => false

/-- Whether an equals sign gives a projected value its name. -/
def namesWithEquals : Dialect → Bool
  | msSql => true
  | _ => false

/-- Whether `* ILIKE` and `* RENAME` are understood. -/
def wildcardRenames : Dialect → Bool
  | generic | snowflake => true
  | _ => false

/-- Whether `* EXCLUDE` is understood. -/
def wildcardExcludes : Dialect → Bool
  | generic | duckDb | snowflake | redshift => true
  | _ => false

/-- Whether `* EXCEPT` is understood. -/
def wildcardExcepts : Dialect → Bool
  | generic | bigQuery | clickHouse | databricks => true
  | _ => false

/-- Whether `* REPLACE` is understood. -/
def wildcardReplaces : Dialect → Bool
  | generic | bigQuery | clickHouse | duckDb | snowflake => true
  | _ => false

/-- Whether `PREWHERE` is understood. -/
def hasPreWhere : Dialect → Bool
  | generic | clickHouse => true
  | _ => false

/-- Whether `GROUP BY` knows `ROLLUP`, `CUBE` and `GROUPING SETS`. -/
def groupsBySets : Dialect → Bool
  | generic | postgreSql | snowflake | redshift | duckDb | msSql | databricks | hive | bigQuery
  | sqlite | clickHouse | ansi => true
  | mySql => false

/-- Whether `GROUP BY` may end with `WITH ROLLUP` and its kin. -/
def groupsWithModifier : Dialect → Bool
  | generic | clickHouse | mySql => true
  | _ => false

/-- Whether a named window may be another window. -/
def renamesWindows : Dialect → Bool
  | generic | bigQuery | mySql | clickHouse => true
  | _ => false

/-- Whether hierarchical queries are understood. -/
def hasConnectBy : Dialect → Bool
  | generic | snowflake | redshift | msSql => true
  | _ => false

/-- Whether `ORDER BY ALL` is understood. -/
def ordersByAll : Dialect → Bool
  | duckDb | clickHouse => true
  | _ => false

/-- Whether `WITH FILL` and `INTERPOLATE` are understood. -/
def fillsOrder : Dialect → Bool
  | generic | clickHouse => true
  | _ => false

/-- Whether an offset may stand before the limit, with a comma between them. -/
def limitsWithComma : Dialect → Bool
  | generic | mySql | sqlite | clickHouse => true
  | _ => false

/-- Whether a limit may be set for each group. -/
def limitsByGroup : Dialect → Bool
  | generic | clickHouse => true
  | _ => false

/-- Whether a query may name its settings and its output format. -/
def hasFormats : Dialect → Bool
  | generic | clickHouse => true
  | _ => false

/-- Whether common tables may be marked as materialised. -/
def materializesTables : Dialect → Bool
  | postgreSql => true
  | _ => false

/-- Whether rows of `VALUES` may be empty. -/
def allowsEmptyRows : Dialect → Bool
  | mySql => true
  | _ => false

/-! ## Changes -/

/-- Whether an insertion may be given a rank, or may pass over rows that are there. -/
def ranksInsertions : Dialect → Bool
  | generic | mySql => true
  | _ => false

/-- Whether an insertion may assign values to columns. -/
def insertsAssignments : Dialect → Bool
  | generic | mySql => true
  | _ => false

/-- Whether the table of an insertion can be given another name. -/
def aliasesInsertionTarget : Dialect → Bool
  | postgreSql => true
  | _ => false

/-- Whether inserted rows can be given a name. -/
def namesInsertedRows : Dialect → Bool
  | generic | mySql => true
  | _ => false

/-- Whether a deletion may name its tables without `FROM`. -/
def deletesWithoutFrom : Dialect → Bool
  | generic | bigQuery => true
  | _ => false

/-! ## Commands -/

/-- Whether `REPLACE` is a statement of its own. -/
def hasReplaceStatement : Dialect → Bool
  | generic | mySql => true
  | _ => false

/-- Whether `REPLACE` is another word for an insertion. -/
def replaceIsInsertion : Dialect → Bool
  | sqlite => true
  | _ => false

/-- Whether the beginning of a transaction says how it locks. -/
def modifiesTransactions : Dialect → Bool
  | generic | sqlite | msSql => true
  | _ => false

/-- The kinds of objects that `USE` may name. -/
def chosenObjects : Dialect → List String
  | databricks => ["CATALOG", "DATABASE", "SCHEMA"]
  | snowflake => ["DATABASE", "SCHEMA", "WAREHOUSE", "ROLE"]
  | _ => []

/-- Whether the options of an explanation stand in parentheses. -/
def explainsWithOptions : Dialect → Bool
  | generic | postgreSql | duckDb => true
  | _ => false

/-- Whether a table is described after the word `TABLE`. -/
def describesWithTable : Dialect → Bool
  | snowflake | clickHouse => true
  | _ => false

/-! ## Tables -/

/-- Whether a single table may stand in parentheses. -/
def parenthesizesTables : Dialect → Bool
  | generic | snowflake => true
  | _ => false

/-- Whether `VALUES` without parentheses is a table. -/
def valuesAsTable : Dialect → Bool
  | generic | snowflake | databricks => true
  | _ => false

/-- Whether `UNNEST` is a table. -/
def unnestsArrays : Dialect → Bool
  | generic | bigQuery | postgreSql => true
  | _ => false

/-- Whether joins without parentheses associate to the right. -/
def nestsJoinsToTheRight : Dialect → Bool
  | snowflake => true
  | _ => false

/-- Whether partitions of a table may be selected. -/
def selectsPartitions : Dialect → Bool
  | generic | mySql => true
  | _ => false

/-- Whether a table may be read as of some time. -/
def hasTableVersions : Dialect → Bool
  | bigQuery | msSql | databricks | snowflake => true
  | _ => false

/-- Whether a sample is taken before the table is named. -/
def samplesBeforeName : Dialect → Bool
  | hive => true
  | _ => false

/-- Whether a table may carry hints for its indexes. -/
def hasIndexHints : Dialect → Bool
  | mySql => true
  | _ => false

end Dialect

end SqlScenarios.Sql
