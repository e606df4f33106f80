import SqlScenarios.Sql.Parser.Queries

/-!
# Commands

Every statement that is no query.  Commands are recognised, so that they can be named when
they are refused.  The common ones are read word by word; of the others only the extent is
determined, which ends at a semicolon outside all parentheses.  What stands between the first
word and that end is not checked: `CREATE banana` is accepted as the command `CREATE`, where a
parser of all commands would find a fault in the text.  Either way the text has no conditions.
-/

namespace SqlScenarios.Sql.Parser

variable (grammar : Grammar)

/-! ## Commands read as a whole -/

/-- Read lexemes up to the end of the statement or to a parenthesis that was not opened;
`open` parentheses have been opened so far. -/
def remainder : Nat → Nat → Parser Unit
  | 0, _ => return ()
  | fuel + 1, depth => do
      match ← peek with
      | none => unless depth = 0 do expected "',' or ')' after column definition"
      | some lexeme =>
          match lexeme.token, depth with
          | .sign ";", 0 | .sign ")", 0 => return ()
          | .sign "(", _ =>
              skip
              remainder fuel (depth + 1)
          | .sign ")", depth + 1 =>
              skip
              remainder fuel depth
          | _, _ =>
              skip
              remainder fuel depth

/-- Read the rest of a command that is only named, whatever it is. -/
def named (keyword : String) : Parser (List Fragment) := do
  remainder ((← get).length + 1) 0
  return [.text keyword]

/-- The commands that are only named, in every dialect. -/
def namedCommands : List String :=
  ["KILL", "FLUSH", "ANALYZE", "CASE", "IF", "WHILE", "RAISE", "ATTACH", "MSCK", "CREATE",
    "CACHE", "DROP", "DISCARD", "DECLARE", "FETCH", "UNCACHE", "ALTER", "COPY", "OPEN",
    "CLOSE", "SHOW", "GRANT", "DENY", "REVOKE", "RAISERROR", "ASSERT", "DEALLOCATE", "PRAGMA",
    "UNLOAD", "RENAME", "LOAD", "PRINT", "RETURN"]

/-- The commands that are only named, in some dialects. -/
def dialectCommands : Dialect → List String
  | .generic => ["DETACH", "LISTEN", "UNLISTEN", "NOTIFY", "COMMENT"]
  | .postgreSql => ["LISTEN", "UNLISTEN", "NOTIFY", "COMMENT"]
  | .duckDb => ["DETACH", "INSTALL"]
  | .clickHouse => ["OPTIMIZE"]
  | .snowflake => ["COMMENT", "LIST", "LS", "REMOVE", "RM"]
  | .mySql => ["LOCK", "UNLOCK"]
  | _ => []

/-! ## Transactions -/

/-- Read how a transaction reads and writes. -/
def transactionModes : Parser String := do
  let modes ← many do
    discard (takeSign ",")
    if ← takeKeywords ["ISOLATION", "LEVEL"] then
      let levels :=
        [["READ", "UNCOMMITTED"], ["READ", "COMMITTED"], ["REPEATABLE", "READ"],
          ["SERIALIZABLE"], ["SNAPSHOT"]]
      match ← takeFirstGroup levels with
      | some level => return some (" ISOLATION LEVEL " ++ String.intercalate " " level)
      | none => expected "isolation level"
    else
      let access ← takeFirstGroup [["READ", "ONLY"], ["READ", "WRITE"]]
      return access.map fun words => " " ++ String.intercalate " " words
  return String.intercalate "," modes

/-- Read the word that may follow the keyword of a command on transactions. -/
def transactionWord : Parser String := do
  return (← takeOneOf ["TRANSACTION", "WORK"]).elim "" (" " ++ ·)

/-- Read whether the next transaction starts at once. -/
def chainWords : Parser String := do
  if ← takeKeyword "AND" then
    let no ← takeKeyword "NO"
    expectKeyword "CHAIN"
    return if no then " AND NO CHAIN" else " AND CHAIN"
  else return ""

/-- Read a command that ends a transaction. -/
def transactionEnd (keyword : String) : Parser (List Fragment) := do
  let word ← transactionWord
  let chain ← chainWords
  return [.text (keyword ++ word ++ chain)]

/-- Read a command that undoes a transaction, or a part of it. -/
def rollback : Parser (List Fragment) := do
  let command ← transactionEnd "ROLLBACK"
  if ← takeKeyword "TO" then
    discard (takeKeyword "SAVEPOINT")
    return command ++ [.text (" TO SAVEPOINT " ++ (← identifier).toSql)]
  else return command

/-- Read a command that begins a transaction. -/
def transactionStart : Parser (List Fragment) := do
  let modifier ←
    if ← dialectHas Dialect.modifiesTransactions then
      takeOneOf ["DEFERRED", "IMMEDIATE", "EXCLUSIVE", "TRY", "CATCH"]
    else pure none
  let word ← transactionWord
  let modes ← transactionModes
  return [.text ("BEGIN" ++ modifier.elim "" (" " ++ ·) ++ word ++ modes)]

/-! ## Settings and calls -/

/-- Read a command that sets a variable. -/
def setting : Parser (List Fragment) := do
  discard (takeOneOf ["SESSION", "LOCAL", "GLOBAL"])
  let special ← takeOneOf ["ROLE", "TIMEZONE", "TIME", "NAMES", "CHARACTERISTICS", "TRANSACTION"]
  if special.isSome then named "SET"
  else if ← comesSign "(" then named "SET"
  else
    let name ← objectName
    if ← takeSign "=" <||> takeKeyword "TO" <||> takeSign ":=" then
      let values ← items grammar.expression
      return .text ("SET " ++ nameToSql name ++ " = ") :: Fragment.exprs values
    else expected "equals sign or TO"

/-- Read a command that calls a procedure. -/
def procedureCall : Parser (List Fragment) := do
  let name ← objectName
  if ← comesSign "(" then return [.text "CALL ", .expr (← call grammar name)]
  else return [.text ("CALL " ++ nameToSql name)]

/-- Read a command that chooses a database. -/
def databaseChoice : Parser (List Fragment) := do
  let kinds := (← read).dialect.chosenObjects
  let kind ← takeOneOf kinds
  return [.text ("USE " ++ kind.elim "" (· ++ " ") ++ nameToSql (← objectName))]

/-- Read a statement that is prepared under a name. -/
def preparation : Parser (List Fragment) := do
  let name ← identifier
  let types ← if ← comesSign "(" then parenthesized (items dataType) else pure []
  expectKeyword "AS"
  match ← grammar.statement with
  | .query query => return [.text ("PREPARE " ++ name.toSql ++ typeWords types), .query query]
  | .command fragments => return .text ("PREPARE " ++ name.toSql ++ typeWords types) :: fragments
where
  /-- The types of the parameters, as they follow the name. -/
  typeWords (types : List DataType) : String :=
    (if types.isEmpty then "" else
      " (" ++ String.intercalate ", " (types.map DataType.text) ++ ")") ++ " AS "

/-! ## Explanations -/

/-- Whether a statement is itself an explanation. -/
def isExplanation : Statement → Bool
  | .command (.text text :: _) =>
      ["EXPLAIN ", "DESCRIBE ", "DESC "].any fun words => words.toList.isPrefixOf text.toList
  | _ => false

/-- Read the options of an explanation. -/
def explanationOptions (keyword : String) : Parser Unit := do
  if keyword == "EXPLAIN" && (← dialectHas Dialect.explainsWithOptions) && (← comesSign "(") then
    skip
    remainder ((← get).length + 1) 0
    expectSign ")"
  else if ← takeKeywords ["QUERY", "PLAN"] then return ()
  else if ← takeKeyword "ESTIMATE" then return ()
  else
    discard (takeKeyword "ANALYZE")
    discard (takeKeyword "VERBOSE")
    if ← takeKeyword "FORMAT" then
      discard (takeSign "=")
      discard identifier

/-- Read what is explained: a statement, or else a table. -/
def explanation (keyword : String) : Parser (List Fragment) := do
  explanationOptions keyword
  match ← attempt grammar.statement with
  | some statement =>
      if isExplanation statement then refuse "Explain must be root of the plan" none
      else return [.text (keyword ++ " "), .text statement.toSql]
  | none =>
      discard (takeOneOf ["EXTENDED", "FORMATTED"])
      if ← dialectHas Dialect.describesWithTable then discard (takeKeyword "TABLE")
      return [.text (keyword ++ " " ++ nameToSql (← objectName))]

/-! ## Truncation and merging -/

/-- Read a command that empties tables. -/
def truncation : Parser (List Fragment) := do
  let marked ← takeKeyword "TABLE"
  let names ← items do
    let only ← takeKeyword "ONLY"
    return (if only then "ONLY " else "") ++ nameToSql (← objectName)
  let partitions ← afterKeyword "PARTITION" (parenthesized (items grammar.expression))
  let identity ← takeFirstGroup [["RESTART", "IDENTITY"], ["CONTINUE", "IDENTITY"]]
  let option ← takeOneOf ["CASCADE", "RESTRICT"]
  return [.text ("TRUNCATE " ++ (if marked then "TABLE " else "") ++ String.intercalate ", " names)] ++
    (partitions.map fun exprs =>
      .text " PARTITION (" :: Fragment.exprs exprs ++ [.text ")"]).getD [] ++
    [.text (identity.elim "" (fun words => " " ++ String.intercalate " " words) ++
      option.elim "" (" " ++ ·))]

/-- Read what is done with matched or missing rows, if another case follows. -/
def mergeCase : Parser (Option (List Fragment)) := do
  match ← peek with
  | none | some ⟨.sign ";", _, _⟩ => return none
  | some _ =>
      expectKeyword "WHEN"
      let negated ← takeKeyword "NOT"
      expectKeyword "MATCHED"
      let side ← if negated then takeFirstGroup [["BY", "SOURCE"], ["BY", "TARGET"]] else pure none
      let condition ← afterKeyword "AND" grammar.expression
      expectKeyword "THEN"
      let action ← expectOneOf ["UPDATE", "INSERT", "DELETE"]
      let change ← match action with
        | "UPDATE" =>
            expectKeyword "SET"
            let changes ← assignments grammar
            pure (.text " SET " :: changes)
        | "INSERT" =>
            let names ← if ← comesSign "(" then (" (" ++ · ++ ")") <$> columns else pure ""
            if ← takeKeyword "ROW" then pure [Fragment.text (names ++ " ROW")]
            else
              expectKeyword "VALUES"
              let values ← rows grammar
              pure (.text (names ++ " ") :: values)
        | _ => pure []
      return some (.text (" WHEN " ++ negation negated ++ "MATCHED" ++
          side.elim "" (fun words => " " ++ String.intercalate " " words)) ::
        Fragment.optional " AND " (condition.map fun expr => [.expr expr]) ++
        .text (" THEN " ++ action) :: change)

/-- Read a command that merges rows into a table. -/
def merge : Parser (List Fragment) := do
  let into ← takeKeyword "INTO"
  let table ← relation grammar (rows grammar)
  expectKeyword "USING"
  let other ← relation grammar (rows grammar)
  expectKeyword "ON"
  let condition ← grammar.expression
  let cases ← many (mergeCase grammar)
  return .text (if into then "MERGE INTO " else "MERGE ") :: relationFragments table ++
    .text " USING " :: relationFragments other ++ .text " ON " :: .expr condition :: cases.flatten

/-! ## Statements -/

/-- Read a command whose keyword is already taken. -/
def command (word : Lexeme) : Parser (List Fragment) := do
  let dialect := (← read).dialect
  let unknown : Parser (List Fragment) := expectedInsteadOf "an SQL statement" (some word)
  match word.keyword with
  | "INSERT" => insertion grammar "INSERT"
  | "REPLACE" =>
      if dialect.hasReplaceStatement then insertion grammar "REPLACE"
      else if dialect.replaceIsInsertion then
        modify (word :: ·)
        insertion grammar "INSERT"
      else unknown
  | "UPDATE" => update grammar
  | "DELETE" => deletion grammar
  | "EXPLAIN" | "DESCRIBE" | "DESC" => explanation grammar word.keyword
  | "TRUNCATE" => truncation grammar
  | "MERGE" => merge grammar
  | "CALL" => procedureCall grammar
  | "USE" => databaseChoice
  | "SET" => setting grammar
  | "PREPARE" => preparation grammar
  | "EXECUTE" | "EXEC" => named "EXECUTE"
  | "BEGIN" => transactionStart
  | "START" =>
      expectKeyword "TRANSACTION"
      return [.text ("START TRANSACTION" ++ (← transactionModes))]
  | "COMMIT" | "END" => transactionEnd word.keyword
  | "ROLLBACK" => rollback
  | "SAVEPOINT" => return [.text ("SAVEPOINT " ++ (← identifier).toSql)]
  | "RELEASE" =>
      discard (takeKeyword "SAVEPOINT")
      return [.text ("RELEASE SAVEPOINT " ++ (← identifier).toSql)]
  | keyword =>
      if namedCommands.contains keyword || (dialectCommands dialect).contains keyword then
        named keyword
      else unknown

/-- Read a statement. -/
def statement : Parser Statement := deeper do
  let ahead ← peek
  let keyword ← peekKeyword
  if ["SELECT", "WITH", "VALUES", "FROM"].contains keyword || isSign "(" ahead then
    .query <$> grammar.query
  else
    match ← next with
    | some word => .command <$> command grammar word
    | none => expectedInsteadOf "an SQL statement" none

end SqlScenarios.Sql.Parser
