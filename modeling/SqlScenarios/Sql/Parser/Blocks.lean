import SqlScenarios.Sql.Parser.Tables

/-!
# Blocks

A block lists values and reads them from tables.  Its filter and its condition on groups
are kept as expressions; the other clauses are phrases.
-/

namespace SqlScenarios.Sql.Parser

variable (grammar : Grammar)

/-! ## Items -/

/-- Read what a wildcard leaves out, replaces or renames. -/
def wildcardOptions : Parser (List Fragment) := do
  let dialect := (← read).dialect
  let like ←
    if dialect.wildcardRenames then afterKeyword "ILIKE" do
      let lexeme ← next
      match lexeme with
      | some ⟨.string .single content, _, _⟩ => return betweenMarks '\'' content
      | _ => expectedInsteadOf "ilike pattern" lexeme
    else pure none
  let names : Parser String := do
    if ← comesSign "(" then return "(" ++ (← columns) ++ ")" else return (← identifier).toSql
  let exclude ←
    if like.isNone && dialect.wildcardExcludes then afterKeyword "EXCLUDE" names else pure none
  let except ←
    if dialect.wildcardExcepts then afterKeyword "EXCEPT" do
      if ← comesSign "(" then return "(" ++ (← columns) ++ ")"
      else return "(" ++ (← identifier).toSql ++ ")"
    else pure none
  let replacement ←
    if dialect.wildcardReplaces then afterKeyword "REPLACE" <| parenthesized do
      let elements ← items do
        let expr ← grammar.expression
        let as ← takeKeyword "AS"
        let name ← identifier
        return [.expr expr, .text ((if as then " AS " else " ") ++ name.toSql)]
      return .text " REPLACE (" :: Fragment.commas elements ++ [.text ")"]
    else pure none
  let renamedColumn : Parser String := do
    let old ← identifier
    expectKeyword "AS"
    return old.toSql ++ " AS " ++ (← identifier).toSql
  let rename ←
    if dialect.wildcardRenames then afterKeyword "RENAME" do
      if ← comesSign "(" then
        return "(" ++ String.intercalate ", " (← parenthesized (items renamedColumn)) ++ ")"
      else renamedColumn
    else pure none
  let clause (keyword : String) (text : Option String) : List Fragment :=
    (text.map fun text => Fragment.text (" " ++ keyword ++ " " ++ text)).toList
  return clause "ILIKE" like ++ clause "EXCLUDE" exclude ++ clause "EXCEPT" except ++
    replacement.getD [] ++ clause "RENAME" rename

/-- Read an item of the list of a block. -/
def item : Parser Item := do
  match ← starred grammar with
  | .all => return .other (.text "*" :: (← wildcardOptions grammar))
  | .qualified parts =>
      return .other (.text (nameToSql parts ++ ".*") :: (← wildcardOptions grammar))
  | .expr (.name [⟨text, none⟩]) =>
      if Text.uppercase text == "FROM" then
        refuse ("Expected an expression, found: " ++ text) (← place)
      else return .value (.name [⟨text, none⟩]) (← valueAlias)
  | .expr (.binary (.name [ident]) .equal value) =>
      if ← dialectHas Dialect.namesWithEquals then return .value value (some ident)
      else return .value (.binary (.name [ident]) .equal value) (← valueAlias)
  | .expr expr => return .value expr (← valueAlias)

/-- Read the list of a block. -/
def projection : Parser (List Item) := do
  let dialect := (← read).dialect
  itemsWith (dialect.allowsTrailingCommas || dialect.allowsTrailingProjectionComma) (item grammar)

/-! ## Clauses before the list -/

/-- Read how many rows are taken from the top. -/
def topClause : Parser (List Fragment) := do
  if ← takeKeyword "TOP" then
    let amount : List Fragment ←
      if ← comesSign "(" then
        let expr ← parenthesized grammar.expression
        pure [.text " TOP (", .expr expr, .text ")"]
      else
        let count ← unsignedNumber
        pure [.text (" TOP " ++ count)]
    let percent ← takeKeyword "PERCENT"
    let ties ← takeKeywords ["WITH", "TIES"]
    return amount ++ Fragment.words percent " PERCENT" ++ Fragment.words ties " WITH TIES"
  else return []

/-- Read whether equal rows count once. -/
def distinctClause : Parser (List Fragment) := do
  let position ← place
  let all ← takeKeyword "ALL"
  if ← takeKeyword "DISTINCT" then
    if all then refuse "Cannot specify both ALL and DISTINCT" position
    else if ← takeKeyword "ON" then
      let exprs ← parenthesized (itemsBefore ")" grammar.expression)
      return .text " DISTINCT ON (" :: Fragment.exprs exprs ++ [.text ")"]
    else return [.text " DISTINCT"]
  else return []

/-- Read everything between `SELECT` and the list. -/
def blockHead : Parser (List Fragment) := do
  let dialect := (← read).dialect
  let mode ←
    if !dialect.hasValueTables then pure []
    else if ← takeKeywords ["DISTINCT", "AS", "VALUE"] then
      pure [.text " DISTINCT AS VALUE"]
    else if ← takeKeywords ["DISTINCT", "AS", "STRUCT"] then
      pure [.text " DISTINCT AS STRUCT"]
    else if ← takeKeywords ["AS", "VALUE"] then pure [.text " AS VALUE"]
    else if ← takeKeywords ["AS", "STRUCT"] then pure [.text " AS STRUCT"]
    else pure []
  let early ← if dialect.topBeforeDistinct then topClause grammar else pure []
  let distinct ← distinctClause grammar
  let late ← if dialect.topBeforeDistinct then pure [] else topClause grammar
  return mode ++ early ++ distinct ++ late

/-- Read the table that a block is written into. -/
def targetClause : Parser (List Fragment) := do
  if ← takeKeyword "INTO" then
    let kind := (← takeOneOf ["TEMPORARY", "TEMP"]).elim "" (· ++ " ")
    let unlogged := if ← takeKeyword "UNLOGGED" then "UNLOGGED " else ""
    let table := if ← takeKeyword "TABLE" then "TABLE " else ""
    let name ← objectName
    return [.text (" INTO " ++ kind ++ unlogged ++ table ++ nameToSql name)]
  else return []

/-! ## Clauses after the tables -/

/-- Read a table that a function makes of each row. -/
def lateralView : Parser (Option (List Fragment)) :=
  afterKeywords ["LATERAL", "VIEW"] do
    let outer ← takeKeyword "OUTER"
    let expr ← grammar.expression
    let name ← objectName
    let names ← items do
      return (← optionalAlias ["WHERE", "GROUP", "CLUSTER", "HAVING", "LATERAL"]).map Ident.toSql
    let columns := names.filterMap id
    return [.text (if outer then " LATERAL VIEW OUTER " else " LATERAL VIEW "), .expr expr,
      .text (" " ++ nameToSql name ++
        (if columns.isEmpty then "" else " AS " ++ String.intercalate ", " columns))]

/-- Read what stands between the tables and the filter. -/
def preFilterClause : Parser (List Fragment) := do
  let views ← many (lateralView grammar)
  let condition ←
    if ← dialectHas Dialect.hasPreWhere then afterKeyword "PREWHERE" grammar.expression
    else pure none
  return views.flatten ++ Fragment.optional " PREWHERE " (condition.map fun expr => [.expr expr])

/-- Read a set of grouping expressions: several in parentheses or a single one. -/
def groupingSet : Parser (List Expr) := do
  if ← comesSign "(" then parenthesized (itemsBefore ")" grammar.expression)
  else return [← grammar.expression]

/-- A set of grouping expressions as a phrase; a single one may go without parentheses. -/
def groupingSetFragments (bare : Bool) (exprs : List Expr) : List Fragment :=
  match bare, exprs with
  | true, [expr] => [.expr expr]
  | _, _ => .text "(" :: Fragment.exprs exprs ++ [.text ")"]

/-- Read sets of grouping expressions in parentheses after their keyword. -/
def groupingSets (keyword : String) (bare : Bool) : Parser (List Fragment) := do
  let sets ← parenthesized (items (groupingSet grammar))
  return .text (keyword ++ " (") ::
    Fragment.commas (sets.map (groupingSetFragments bare)) ++ [.text ")"]

/-- Read what rows are grouped by. -/
def groupingItem : Parser (List Fragment) := do
  if ← dialectHas Dialect.groupsBySets then
    if ← takeKeywords ["GROUPING", "SETS"] then groupingSets grammar "GROUPING SETS" false
    else if ← takeKeyword "CUBE" then groupingSets grammar "CUBE" true
    else if ← takeKeyword "ROLLUP" then groupingSets grammar "ROLLUP" true
    else if (← comesSign "(") && isSign ")" (← peekAt 1) then
      skip
      skip
      return [.text "()"]
    else return [.expr (← grammar.expression)]
  else return [.expr (← grammar.expression)]

/-- Read how rows are grouped. -/
def groupClause : Parser (List Fragment) := do
  if ← takeKeywords ["GROUP", "BY"] then
    let keys ←
      if ← takeKeyword "ALL" then pure [.text " GROUP BY ALL"]
      else
        let keys ← items (groupingItem grammar)
        pure (.text " GROUP BY " :: Fragment.commas keys)
    let modifiers ←
      if ← dialectHas Dialect.groupsWithModifier then
        many <| afterKeyword "WITH" do
          let kind ← expectOneOf ["ROLLUP", "CUBE", "TOTALS"]
          return [Fragment.text (" WITH " ++ kind)]
      else pure []
    let sets ←
      if ← takeKeywords ["GROUPING", "SETS"] then
        let sets ← groupingSets grammar "GROUPING SETS" false
        pure (.text " " :: sets)
      else pure []
    return keys ++ modifiers.flatten ++ sets
  else return []

/-- Read how rows are spread over machines. -/
def spreadClause : Parser (List Fragment) := do
  let cluster ← afterKeywords ["CLUSTER", "BY"] (items grammar.expression)
  let distribute ← afterKeywords ["DISTRIBUTE", "BY"] (items grammar.expression)
  let sort ← afterKeywords ["SORT", "BY"] (items (orderItem grammar))
  return Fragment.optional " CLUSTER BY " (cluster.map Fragment.exprs) ++
    Fragment.optional " DISTRIBUTE BY " (distribute.map Fragment.exprs) ++
    Fragment.optional " SORT BY " (sort.map Fragment.commas)

/-- Read a window with its name. -/
def namedWindow : Parser (List Fragment) := do
  let name ← identifier
  expectKeyword "AS"
  if ← takeSign "(" then
    let spec ← windowSpec grammar
    return .text (name.toSql ++ " AS (") :: spec ++ [.text ")"]
  else if ← dialectHas Dialect.renamesWindows then
    return [.text (name.toSql ++ " AS " ++ (← identifier).toSql)]
  else expected "("

/-- Read the named windows of a block. -/
def windowClause : Parser (List Fragment) := do
  let windows ← afterKeyword "WINDOW" (items (namedWindow grammar))
  return Fragment.optional " WINDOW " (windows.map Fragment.commas)

/-- Read the condition on windows. -/
def qualifyClause : Parser (List Fragment) := do
  let condition ← afterKeyword "QUALIFY" grammar.expression
  return Fragment.optional " QUALIFY " (condition.map fun expr => [.expr expr])

/-- Run a parser inside a hierarchical condition. -/
def hierarchically {α : Type} (parser : Parser α) : Parser α := fun context =>
  parser { context with hierarchical := true }

/-- Read how rows depend on each other. -/
def hierarchyClause : Parser (List Fragment) := do
  let start (keyword : String) : Parser (List Fragment) := do
    expectKeywords ["START", "WITH"]
    return [.text (keyword ++ "START WITH "), .expr (← grammar.expression)]
  let connection : Parser (List Fragment) := do
    expectKeywords ["CONNECT", "BY"]
    let exprs ← hierarchically (items grammar.expression)
    return .text " CONNECT BY " :: Fragment.exprs exprs
  let keyword ← peekKeyword
  if !(← dialectHas Dialect.hasConnectBy) then return []
  else if keyword == "START" then
    let first ← start " "
    return first ++ (← connection)
  else if keyword == "CONNECT" then
    let link ← connection
    let first ← start " "
    return first ++ link
  else return []

/-- Read everything after the condition on groups. -/
def blockTail : Parser (List Fragment) := do
  let windows ← windowClause grammar
  let qualify ← qualifyClause grammar
  let late ← if windows.isEmpty && !qualify.isEmpty then windowClause grammar else pure []
  let hierarchy ← hierarchyClause grammar
  return windows ++ qualify ++ late ++ hierarchy

/-! ## Blocks -/

/-- Read tables with commas between them. -/
def sources : Parser (List Source) := items grammar.source

/-- Read the clauses of a block after its tables. -/
def blockRest (form : BlockForm) (head : List Fragment) (projection : List Item)
    (target : List Fragment) (sources : List Source) : Parser Block := do
  let preFilter ← preFilterClause grammar
  let filter ← afterKeyword "WHERE" grammar.expression
  let groups ← groupClause grammar
  let spread ← spreadClause grammar
  let having ← afterKeyword "HAVING" grammar.expression
  let tail ← blockTail grammar
  return {
    form, head, projection, target, sources, preFilter, filter, having, tail
    grouping := groups ++ spread }

/-- Read a block. -/
def block : Parser Block := do
  let dialect := (← read).dialect
  let first ←
    if ← pure dialect.startsWithFrom <&&> takeKeyword "FROM" then some <$> sources grammar
    else pure none
  match first with
  | some tables =>
      unless ← comesKeyword "SELECT" do
        return {
          form := .fromOnly, head := [], projection := [], target := [], sources := tables,
          preFilter := [], filter := none, grouping := [], having := none, tail := [] }
  | none => pure ()
  expectKeyword "SELECT"
  let head ← blockHead grammar
  let values ←
    if dialect.allowsEmptyProjection && (← comesKeyword "FROM") then pure []
    else projection grammar
  let target ← targetClause
  match first with
  | some tables => blockRest grammar .fromFirst head values target tables
  | none =>
      let tables ← afterKeyword "FROM" (sources grammar)
      blockRest grammar .selectFirst head values target (tables.getD [])

end SqlScenarios.Sql.Parser
