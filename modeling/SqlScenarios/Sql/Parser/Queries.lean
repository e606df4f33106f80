import SqlScenarios.Sql.Parser.Changes

/-!
# Queries

A query has common tables, a body and clauses that order and limit the rows of the body.  A
body is a block, a query in parentheses, a list of rows, or two bodies with an operator on
sets of rows between them.
-/

namespace SqlScenarios.Sql.Parser

variable (grammar : Grammar)

/-! ## Rows -/

/-- Read rows of values after `VALUES`.  If one of them is marked as a row, all are printed
with that mark. -/
def rows : Parser (List Fragment) := do
  let emptyRows ← dialectHas Dialect.allowsEmptyRows
  let rows ← items do
    let marked ← takeKeyword "ROW"
    let values ← parenthesized <|
      if emptyRows then itemsBefore ")" grammar.expression else items grammar.expression
    return (marked, values)
  let mark := if rows.any Prod.fst then "ROW(" else "("
  return .text "VALUES " ::
    Fragment.commas (rows.map fun row => .text mark :: Fragment.exprs row.2 ++ [.text ")"])

/-- Read the name of a table whose rows are taken whole, after `TABLE`.  The two lexemes
after a name without a schema are not looked at. -/
def wholeTable : Parser (List Fragment) := do
  let word (wanted : String) (lexeme : Option Lexeme) : Parser String :=
    match lexeme with
    | some ⟨.word text _, _, _⟩ => return text
    | _ => expectedInsteadOf wanted lexeme
  let first ← next
  let second ← next
  let third ← next
  if isSign "." second then
    let schema ← word "Schema name" first
    let name ← word "Table name" third
    return [.text ("TABLE " ++ schema ++ "." ++ name)]
  else
    let name ← word "Table name" first
    return [.text ("TABLE " ++ name)]

/-! ## Bodies -/

/-- How tightly an operator on sets of rows binds; zero if the word is none. -/
def setOperatorPrecedence : String → Nat
  | "UNION" | "EXCEPT" | "MINUS" => 10
  | "INTERSECT" => 20
  | _ => 0

/-- The words that may follow an operator on sets of rows, longer groups first. -/
def setQuantifiers : List (List String) :=
  [["DISTINCT", "BY", "NAME"], ["BY", "NAME"], ["ALL", "BY", "NAME"], ["ALL"], ["DISTINCT"]]

/-- Read a body that no operator on sets of rows makes up. -/
def simpleBody : Parser Body := do
  let keyword ← peekKeyword
  if keyword == "SELECT" || (keyword == "FROM" && (← dialectHas Dialect.startsWithFrom)) then
    .block <$> block grammar
  else if ← takeSign "(" then
    let query ← grammar.query
    expectSign ")"
    return .paren query
  else if ← takeKeyword "VALUES" then .other <$> rows grammar
  else if ← takeKeyword "TABLE" then .other <$> wholeTable
  else expected "SELECT, VALUES, or a subquery in the query body"

/-- Read a body up to the next operator on sets of rows that does not bind tighter than the
given precedence. -/
def body (precedence : Nat) : Parser Body := do
  iterate
    (fun left => do
      let operator ← peekKeyword
      let ahead := setOperatorPrecedence operator
      if precedence < ahead then
        skip
        let quantifier := (← takeFirstGroup setQuantifiers).getD []
        let right ← grammar.body ahead
        return some (.setOperation left (String.intercalate " " (operator :: quantifier)) right)
      else return none)
    (← simpleBody grammar)

/-! ## Clauses on the rows of a body -/

/-- Read how the gaps of an order that is filled up are computed. -/
def interpolation : Parser (List Fragment) := do
  if ← dialectHas Dialect.fillsOrder <&&> takeKeyword "INTERPOLATE" then
    if ← takeSign "(" then
      let columns ← itemsBefore ")" do
        let name ← identifier
        let expr ← afterKeyword "AS" grammar.expression
        return .text name.toSql :: Fragment.optional " AS " (expr.map fun expr => [.expr expr])
      expectSign ")"
      return .text " INTERPOLATE (" :: Fragment.commas columns ++ [.text ")"]
    else return [.text " INTERPOLATE"]
  else return []

/-- Read the order of the rows. -/
def queryOrder : Parser (List Fragment) := do
  if ← takeKeywords ["ORDER", "BY"] then
    if ← dialectHas Dialect.ordersByAll <&&> takeKeyword "ALL" then
      return .text " ORDER BY ALL" :: (← orderOptions)
    else
      let keys ← items (orderItem grammar)
      let gaps ← interpolation grammar
      return .text " ORDER BY " :: Fragment.commas keys ++ gaps
  else return []

/-- Read how many rows are left out, after `OFFSET`. -/
def offsetRows : Parser (List Fragment) := do
  let count ← grammar.expression
  let unit := (← takeOneOf ["ROW", "ROWS"]).elim "" (" " ++ ·)
  return [.text " OFFSET ", .expr count, .text unit]

/-- Read how many rows are left out and how many are taken, in either order. -/
def limitClause : Parser (List Fragment) := do
  let dialect := (← read).dialect
  let early ← afterKeyword "OFFSET" (offsetRows grammar)
  let limited ← takeKeyword "LIMIT"
  if !limited then return early.getD []
  else
    let count ← if ← takeKeyword "ALL" then pure none else some <$> grammar.expression
    match count with
    | some first =>
        if ← pure (dialect.limitsWithComma && early.isNone) <&&> takeSign "," then
          let second ← grammar.expression
          return [.text " LIMIT ", .expr first, .text ", ", .expr second]
    | none => pure ()
    let groups ←
      if dialect.limitsByGroup then afterKeyword "BY" (items grammar.expression) else pure none
    let late ← if early.isNone then afterKeyword "OFFSET" (offsetRows grammar) else pure early
    return Fragment.optional " LIMIT " (count.map fun expr => [.expr expr]) ++ late.getD [] ++
      Fragment.optional " BY " (groups.map Fragment.exprs)

/-- Read the settings of a query. -/
def settingsClause : Parser (List Fragment) := do
  if ← dialectHas Dialect.hasFormats <&&> takeKeyword "SETTINGS" then
    let settings ← items do
      let name ← identifier
      expectSign "="
      return [.text (name.toSql ++ " = "), .expr (← grammar.expression)]
    return .text " SETTINGS " :: Fragment.commas settings
  else return []

/-- Read how many rows are fetched. -/
def fetchClause : Parser (List Fragment) := do
  if ← takeKeyword "FETCH" then
    discard (takeOneOf ["FIRST", "NEXT"])
    let count ←
      if (← takeOneOf ["ROW", "ROWS"]).isSome then pure []
      else
        let count ← literalExpr
        let percent ← takeKeyword "PERCENT"
        discard (takeOneOf ["ROW", "ROWS"])
        pure [.text " ", .expr count, .text (if percent then " PERCENT" else "")]
    let ties ←
      if ← takeKeyword "ONLY" then pure false else takeKeywords ["WITH", "TIES"]
    return .text " FETCH FIRST" :: count ++ [.text (if ties then " ROWS WITH TIES" else " ROWS ONLY")]
  else return []

/-- Read a string in parentheses. -/
def parenthesizedString : Parser String := parenthesized do
  let lexeme ← next
  match lexeme with
  | some ⟨.string .single content, _, _⟩ => return "('" ++ content ++ "')"
  | _ => expectedInsteadOf "literal string" lexeme

/-- Read the options of an answer that is one document, each after a comma. -/
def documentOptions (options : List (String × Parser String)) : Parser String := do
  let words ← many do
    if ← takeSign "," then
      match options.find? (·.1 == (← peekKeyword)) with
      | some (keyword, rest) =>
          skip
          return some (", " ++ keyword ++ (← rest))
      | none => return some ""
    else return none
  return String.join words

/-- Read the form of an answer that is one document, after `FOR`. -/
def documentForm : Parser (Option String) := do
  let name : Parser String := do
    if ← comesSign "(" then parenthesizedString else return ""
  let base64 : Parser String := do
    expectKeyword "BASE64"
    return " BASE64"
  match ← takeOneOf ["XML", "JSON", "BROWSE"] with
  | some "XML" =>
      let form ← match ← takeOneOf ["RAW", "AUTO", "EXPLICIT", "PATH"] with
        | some keyword =>
            if keyword == "RAW" || keyword == "PATH" then pure (keyword ++ (← name))
            else pure keyword
        | none => refuse "Expected FOR XML [RAW | AUTO | EXPLICIT | PATH ]" none
      let options ← documentOptions
        [("ELEMENTS", return ""), ("BINARY", base64), ("ROOT", parenthesizedString),
          ("TYPE", return "")]
      return some (" FOR XML " ++ form ++ options)
  | some "JSON" =>
      let form ← match ← takeOneOf ["AUTO", "PATH"] with
        | some keyword => pure keyword
        | none => refuse "Expected FOR JSON [AUTO | PATH ]" none
      let options ← documentOptions
        [("ROOT", parenthesizedString), ("INCLUDE_NULL_VALUES", return ""),
          ("WITHOUT_ARRAY_WRAPPER", return "")]
      return some (" FOR JSON " ++ form ++ options)
  | some keyword => return some (" FOR " ++ keyword)
  | none => return none

/-- Read how the rows are locked, after `FOR`. -/
def lockClause : Parser String := do
  let kind ← expectOneOf ["UPDATE", "SHARE"]
  let tables ← match ← afterKeyword "OF" objectName with
    | some name => pure (" OF " ++ nameToSql name)
    | none => pure ""
  let wait ←
    if ← takeKeyword "NOWAIT" then pure " NOWAIT"
    else if ← takeKeywords ["SKIP", "LOCKED"] then pure " SKIP LOCKED"
    else pure ""
  return " FOR " ++ kind ++ tables ++ wait

/-- Read what the rows are wanted for: locks, and at last the form of the answer. -/
def purposeClauses : Nat → Parser String
  | 0 => return ""
  | fuel + 1 => do
      if ← takeKeyword "FOR" then
        match ← documentForm with
        | some form => return form
        | none =>
            let lock ← lockClause
            return lock ++ (← purposeClauses fuel)
      else return ""

/-- Read the format in which the rows are written. -/
def formatClause : Parser String := do
  if ← dialectHas Dialect.hasFormats <&&> takeKeyword "FORMAT" then
    if ← takeKeyword "NULL" then return " FORMAT NULL"
    else return " FORMAT " ++ (← identifier).toSql
  else return ""

/-- Read the clauses after a body. -/
def queryTail : Parser (List Fragment) := do
  let order ← queryOrder grammar
  let limit ← limitClause grammar
  let settings ← settingsClause grammar
  let fetch ← fetchClause
  let purposes ← purposeClauses (← get).length
  let format ← formatClause
  return order ++ limit ++ settings ++ fetch ++ [.text (purposes ++ format)]

/-! ## Queries -/

/-- Read a common table. -/
def commonTable : Parser CommonTable := do
  let name ← identifier
  let columns ←
    if ← takeKeyword "AS" then pure []
    else
      let columns ← aliasColumns
      expectKeyword "AS"
      pure columns
  let mark ←
    if !(← dialectHas Dialect.materializesTables) then pure ""
    else if ← takeKeyword "MATERIALIZED" then pure "MATERIALIZED "
    else if ← takeKeywords ["NOT", "MATERIALIZED"] then pure "NOT MATERIALIZED "
    else pure ""
  let query ← parenthesized grammar.query
  let origin ← afterKeyword "FROM" identifier
  let list := if columns.isEmpty then "" else " (" ++ String.intercalate ", " columns ++ ")"
  return {
    head := name.toSql ++ list ++ " AS " ++ mark
    query
    tail := (origin.map fun ident => " FROM " ++ ident.toSql).getD "" }

/-- Read a query. -/
def query : Parser Query := deeper do
  let explicit ← takeKeyword "WITH"
  let recursive ← if explicit then takeKeyword "RECURSIVE" else pure false
  let tables ← if explicit then items (commonTable grammar) else pure []
  match ← takeOneOf ["INSERT", "UPDATE", "DELETE"] with
  | some "INSERT" => return ⟨recursive, tables, .other (← insertion grammar "INSERT"), []⟩
  | some "UPDATE" => return ⟨recursive, tables, .other (← update grammar), []⟩
  | some _ => return ⟨recursive, tables, .other (← deletion grammar), []⟩
  | none =>
      let body ← grammar.body 0
      return ⟨recursive, tables, body, ← queryTail grammar⟩

end SqlScenarios.Sql.Parser
