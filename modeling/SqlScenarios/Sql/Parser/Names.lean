import SqlScenarios.Sql.Parser.Basic
import SqlScenarios.Sql.Printer

/-!
# Names

Identifiers, qualified names and the names that tables and values are given.  Any plain word
can be an identifier, but a word that could start the next clause names a value or a table
only after `AS`.
-/

namespace SqlScenarios.Sql.Parser

/-- The identifier that a lexeme is, if it is one; strings can name things too. -/
def ident? : Option Lexeme → Option Ident
  | some ⟨.word text delimiter, _, _⟩ => some ⟨text, delimiter⟩
  | some ⟨.string .single content, _, _⟩ => some ⟨content, some '\''⟩
  | some ⟨.string .double content, _, _⟩ => some ⟨content, some '"'⟩
  | _ => none

/-- Read an identifier. -/
def identifier : Parser Ident := do
  let lexeme ← next
  match ident? lexeme with
  | some ident => return ident
  | none => expectedInsteadOf "identifier" lexeme

/-- Read a name with its qualifications. -/
def objectName : Parser (List Ident) := do
  let first ← identifier
  let rest ← many do
    if ← takeSign "." then return some (← identifier) else return none
  return first :: rest

/-- Read names in parentheses. -/
def columnNames (name : Parser (List Ident)) : Parser String := do
  unless ← takeSign "(" do expected "a list of columns in parentheses"
  let names ← items name
  expectSign ")"
  return String.intercalate ", " (names.map nameToSql)

/-- Read identifiers in parentheses. -/
def columns : Parser String := columnNames (List.singleton <$> identifier)

/-- Words that cannot name a table unless `AS` stands before them. -/
def reservedAfterTable : List String :=
  ["WITH", "EXPLAIN", "ANALYZE", "SELECT", "WHERE", "GROUP", "SORT", "HAVING", "ORDER", "PIVOT",
    "UNPIVOT", "TOP", "LATERAL", "VIEW", "LIMIT", "OFFSET", "FETCH", "UNION", "EXCEPT",
    "INTERSECT", "MINUS", "ON", "JOIN", "INNER", "CROSS", "FULL", "LEFT", "RIGHT", "NATURAL",
    "USING", "CLUSTER", "DISTRIBUTE", "GLOBAL", "ANTI", "SEMI", "RETURNING", "ASOF",
    "MATCH_CONDITION", "OUTER", "SET", "QUALIFY", "WINDOW", "END", "FOR", "PARTITION",
    "PREWHERE", "SETTINGS", "FORMAT", "START", "CONNECT", "MATCH_RECOGNIZE", "SAMPLE",
    "TABLESAMPLE", "FROM", "OPEN"]

/-- Read the name that something is given, if it is given one.  A string can always be such
a name, and a word unless it is reserved; after `AS` there has to be a name. -/
def optionalAlias (reserved : List String) : Parser (Option Ident) := do
  let explicit ← takeKeyword "AS"
  let lexeme ← peek
  let named :=
    match lexeme with
    | some ⟨.word _ _, keyword, _⟩ => explicit || !reserved.contains keyword
    | some ⟨.string .single _, _, _⟩ => true
    | some ⟨.string .double _, _, _⟩ => true
    | _ => false
  match named, ident? lexeme with
  | true, some ident =>
      skip
      return some ident
  | _, _ => if explicit then expected "an identifier after AS" else return none

/-- Read the name of a value of a block, if it has one. -/
def valueAlias : Parser (Option Ident) := optionalAlias reservedAfterValue

end SqlScenarios.Sql.Parser
