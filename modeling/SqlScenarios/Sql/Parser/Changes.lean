import SqlScenarios.Sql.Parser.Blocks

/-!
# Changes

The statements that insert, update and delete rows.  They may also be the body of a query,
which then asks for the rows that were changed; scenarios are made for none of them, so that
they are kept as phrases.
-/

namespace SqlScenarios.Sql.Parser

variable (grammar : Grammar)

/-- Read what a column is set to. -/
def assignment : Parser (List Fragment) := do
  let target ←
    if ← comesSign "(" then
      let names ← columnNames objectName
      pure ("(" ++ names ++ ")")
    else nameToSql <$> objectName
  expectSign "="
  return [.text (target ++ " = "), .expr (← grammar.expression)]

/-- Read assignments with commas between them. -/
def assignments : Parser (List Fragment) := do
  return Fragment.commas (← items (assignment grammar))

/-- Read a condition after `WHERE`, if there is one. -/
def whereClause : Parser (List Fragment) := do
  let condition ← afterKeyword "WHERE" grammar.expression
  return Fragment.optional " WHERE " (condition.map fun expr => [.expr expr])

/-- Read which values of the changed rows are given back. -/
def returningClause : Parser (List Fragment) := do
  let values ← afterKeyword "RETURNING" (items (item grammar))
  return Fragment.optional " RETURNING " (values.map itemFragments)
where
  /-- Items with commas between them, as a phrase. -/
  itemFragments (values : List Item) : List Fragment :=
    Fragment.commas (values.map fun
      | .value expr none => [.expr expr]
      | .value expr (some name) => [.expr expr, .text (" AS " ++ name.toSql)]
      | .other fragments => fragments)

/-- Tables with commas between them, as a phrase. -/
def sourceFragments (tables : List Source) : List Fragment :=
  Fragment.commas (tables.map fun table => [.source table])

/-- Read how many rows are changed at most. -/
def changeLimit : Parser (List Fragment) := do
  if ← takeKeyword "LIMIT" then
    if ← takeKeyword "ALL" then return []
    else return [.text " LIMIT ", .expr (← grammar.expression)]
  else return []

/-- Read what is done instead of failing, before the table. -/
def conflictWords : Parser (Option String) := do
  let actions := ["REPLACE", "ROLLBACK", "ABORT", "FAIL", "IGNORE"]
  match ← takeFirstGroup (actions.map fun action => ["OR", action]) with
  | some group => return some (String.intercalate " " group)
  | none => if ← takeKeyword "REPLACE" then return some "OR REPLACE" else return none

/-! ## Insertion -/

/-- Read identifiers in parentheses, if there are any. -/
def optionalColumns : Parser String := do
  if ← comesSign "(" then return "(" ++ (← columnNames objectName) ++ ") " else return ""

/-- Read what happens when an inserted row is already there. -/
def onConflict : Parser (List Fragment) := do
  if !(← takeKeyword "ON") then return []
  else if ← takeKeyword "CONFLICT" then
    let target ←
      if ← takeKeywords ["ON", "CONSTRAINT"] then
        let name ← objectName
        pure (" ON CONSTRAINT " ++ nameToSql name)
      else if ← comesSign "(" then
        let names ← columns
        pure (" (" ++ names ++ ")")
      else pure ""
    expectKeyword "DO"
    if ← takeKeyword "NOTHING" then return [.text (" ON CONFLICT" ++ target ++ " DO NOTHING")]
    else
      expectKeywords ["UPDATE", "SET"]
      let changes ← assignments grammar
      let condition ← whereClause grammar
      return .text (" ON CONFLICT" ++ target ++ " DO UPDATE SET ") :: changes ++ condition
  else
    expectKeywords ["DUPLICATE", "KEY", "UPDATE"]
    return .text " ON DUPLICATE KEY UPDATE " :: (← assignments grammar)

/-- Read the words between the keyword of an insertion and the table. -/
def insertionWords : Parser String := do
  let dialect := (← read).dialect
  match ← conflictWords with
  | some words =>
      discard (takeKeyword "INTO")
      discard (takeKeyword "TABLE")
      return " " ++ words ++ " INTO"
  | none =>
      let urgency ←
        if dialect.ranksInsertions then takeOneOf ["LOW_PRIORITY", "DELAYED", "HIGH_PRIORITY"]
        else pure none
      let ignore ← if dialect.ranksInsertions then takeKeyword "IGNORE" else pure false
      let overwrite ← takeKeyword "OVERWRITE"
      let into ← takeKeyword "INTO"
      let table ← takeKeyword "TABLE"
      return urgency.elim "" (" " ++ ·) ++ (if ignore then " IGNORE" else "") ++
        (if overwrite then " OVERWRITE" else "") ++ (if into then " INTO" else "") ++
        (if table then " TABLE" else "")

/-- Read the rows that are inserted, with the columns they fill. -/
def insertedRows : Parser (List Fragment) := do
  let dialect := (← read).dialect
  if ← takeKeywords ["DEFAULT", "VALUES"] then return [.text "DEFAULT VALUES"]
  else
    let bare := isSign "(" (← peek) && (← peekKeywordAt 1) == "SELECT"
    let columns ← if bare then pure "" else optionalColumns
    let partition ←
      if bare then pure none
      else afterKeyword "PARTITION" <| parenthesized do
        let exprs ← items grammar.expression
        return .text "PARTITION (" :: Fragment.exprs exprs ++ [.text ") "]
    let lead := .text columns :: partition.getD []
    if ← pure dialect.insertsAssignments <&&> takeKeyword "SET" then
      return lead ++ .text "SET " :: (← assignments grammar)
    else return lead ++ [.query (← grammar.query)]

/-- Read an insertion after its keyword, which is given. -/
def insertion (keyword : String) : Parser (List Fragment) := do
  let dialect := (← read).dialect
  let words ← insertionWords
  let name ← objectName
  let label ←
    if dialect.aliasesInsertionTarget then afterKeyword "AS" identifier else pure none
  let rows ← insertedRows grammar
  let rowAlias ←
    if dialect.namesInsertedRows then afterKeyword "AS" do
      let name ← objectName
      if ← comesSign "(" then return " AS " ++ nameToSql name ++ " (" ++ (← columns) ++ ")"
      else return " AS " ++ nameToSql name
    else pure none
  let conflict ← onConflict grammar
  let returning ← returningClause grammar
  let target := nameToSql name ++ (label.map fun ident => " AS " ++ ident.toSql).getD ""
  return .text (keyword ++ words ++ " " ++ target ++ " ") :: rows ++ [.text (rowAlias.getD "")] ++
    conflict ++ returning

/-! ## Update and deletion -/

/-- Read an update after its keyword. -/
def update : Parser (List Fragment) := do
  let conflict ← conflictWords
  let table ← grammar.source
  let early ← afterKeyword "FROM" (items grammar.source)
  expectKeyword "SET"
  let changes ← assignments grammar
  let late ← if early.isSome then pure none else afterKeyword "FROM" (items grammar.source)
  let condition ← whereClause grammar
  let returning ← returningClause grammar
  let limit ← changeLimit grammar
  return [.text ("UPDATE " ++ conflict.elim "" (· ++ " ")), .source table] ++
    Fragment.optional " FROM " (early.map sourceFragments) ++ .text " SET " :: changes ++
    Fragment.optional " FROM " (late.map sourceFragments) ++ condition ++ returning ++ limit

/-- Read a deletion after its keyword. -/
def deletion : Parser (List Fragment) := do
  let marked ← takeKeyword "FROM"
  let names ←
    if marked || (← dialectHas Dialect.deletesWithoutFrom) then pure []
    else
      let names ← items objectName
      expectKeyword "FROM"
      pure names
  let tables ← items grammar.source
  let others ← afterKeyword "USING" (items grammar.source)
  let condition ← whereClause grammar
  let returning ← returningClause grammar
  let order ← orderClause grammar " "
  let limit ← changeLimit grammar
  let targets :=
    if names.isEmpty then "" else " " ++ String.intercalate ", " (names.map nameToSql)
  return .text ("DELETE" ++ targets ++ (if marked || !names.isEmpty then " FROM " else " ")) ::
    sourceFragments tables ++ Fragment.optional " USING " (others.map sourceFragments) ++
    condition ++ returning ++ order ++ limit

end SqlScenarios.Sql.Parser
