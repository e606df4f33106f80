import SqlScenarios.Sql.Parser.Expressions

/-!
# Tables

The tables that a block reads: named tables, functions, queries in parentheses, joined
tables in parentheses, and the joins between all of these.  A parenthesis may open a query
or joined tables; a query is tried first.
-/

namespace SqlScenarios.Sql.Parser

variable (grammar : Grammar)

/-! ## Names of tables -/

/-- Read the columns that the name of a table renames, with their types. -/
def aliasColumns : Parser (List String) := do
  if ← takeSign "(" then
    let columns ← items do
      let name ← identifier
      let type ← attempt dataType
      return name.toSql ++ (type.map fun type => " " ++ type.text).getD ""
    expectSign ")"
    return columns
  else return []

/-- Words that cannot name a table in some dialects. -/
def reservedAfterTableIn (dialect : Dialect) : List String :=
  if dialect.hasIndexHints then ["USE", "IGNORE", "FORCE", "STRAIGHT_JOIN"] ++ reservedAfterTable
  else reservedAfterTable

/-- Read the name that a table is given, if it is given one. -/
def tableAlias : Parser (Option TableAlias) := do
  match ← optionalAlias (reservedAfterTableIn (← read).dialect) with
  | some name => return some ⟨name, ← aliasColumns⟩
  | none => return none

/-! ## Suffixes of tables -/

/-- Read the time as of which a table is read: after the words for it, or as a call. -/
def tableVersion : Parser (List Fragment) := do
  let asOf (words : List String) (parser : Parser Expr) : Parser (Option (List Fragment)) := do
    let version ← afterKeywords words parser
    return version.map fun expr =>
      [.text (" " ++ String.intercalate " " words ++ " "), .expr expr]
  if ← dialectHas Dialect.hasTableVersions then
    if let some version ← asOf ["FOR", "SYSTEM_TIME", "AS", "OF"] grammar.expression then
      return version
    else if let some version ← asOf ["TIMESTAMP", "AS", "OF"] grammar.expression then
      return version
    else if let some version ← asOf ["VERSION", "AS", "OF"] literalExpr then return version
    else if (← comesKeyword "AT") || (← comesKeyword "BEFORE") then
      let name ← objectName
      return [.text " ", .expr (← call grammar name)]
    else return []
  else return []

/-- Read the part of a table that is sampled. -/
def tableSample : Parser (List Fragment) := do
  match ← takeOneOf ["TABLESAMPLE", "SAMPLE"] with
  | none => return []
  | some keyword =>
      let method := (← takeOneOf ["BERNOULLI", "ROW", "SYSTEM", "BLOCK"]).elim "" (" " ++ ·)
      let amount ← parenthesized do
        let expr ← grammar.expression
        let unit := (← takeOneOf ["ROWS", "PERCENT"]).elim "" (" " ++ ·)
        return [.text " (", .expr expr, .text (unit ++ ")")]
      let seed ← match ← takeOneOf ["REPEATABLE", "SEED"] with
        | some word => parenthesized do
            return [Fragment.text (" " ++ word ++ " ("), .expr (← literalExpr), .text ")"]
        | none => pure []
      return .text (" " ++ keyword ++ method) :: amount ++ seed

/-- Read a hint on an index of a table. -/
def indexHint : Parser (List Fragment) := do
  let action ← expectOneOf ["USE", "IGNORE", "FORCE"]
  let kind ← expectOneOf ["INDEX", "KEY"]
  let purpose ←
    if ← takeKeyword "FOR" then
      if ← takeKeyword "JOIN" then pure " FOR JOIN"
      else if ← takeKeywords ["ORDER", "BY"] then pure " FOR ORDER BY"
      else if ← takeKeywords ["GROUP", "BY"] then pure " FOR GROUP BY"
      else expected "to match JOIN/ORDER BY/GROUP BY for table hint"
    else pure ""
  let names ← parenthesized (itemsBefore ")" identifier)
  return [.text (" " ++ action ++ " " ++ kind ++ purpose ++ " (" ++
    String.intercalate ", " (names.map Ident.toSql) ++ ")")]

/-- Read the hints on the indexes of a table. -/
def indexHints : Parser (List Fragment) := do
  if ← dialectHas Dialect.hasIndexHints then
    return (← many (attempt indexHint)).flatten
  else return []

/-- Read the hints on a table in parentheses after `WITH`. -/
def tableHints : Parser (List Fragment) := do
  if (← comesKeyword "WITH") && isSign "(" (← peekAt 1) then
    skip
    let hints ← parenthesized (items grammar.expression)
    return .text " WITH (" :: Fragment.exprs hints ++ [.text ")"]
  else return []

/-! ## Pivots -/

/-- Read an expression, perhaps with a name. -/
def namedExpr : Parser (List Fragment) := do
  let expr ← grammar.expression
  let name ← afterKeyword "AS" identifier
  return .expr expr :: (name.map fun ident => Fragment.text (" AS " ++ ident.toSql)).toList

/-- A table as a phrase, together with its name. -/
def relationFragments : Relation → List Fragment
  | .derived lateral query label =>
      [.text (if lateral then "LATERAL (" else "("), .query query, .text (")" ++ aliasToSql label)]
  | .nested source label => [.text "(", .source source, .text (")" ++ aliasToSql label)]
  | .other body label rest => body ++ .text (aliasToSql label) :: rest

/-- Read how rows of a table become columns, after `PIVOT`. -/
def pivot (table : Relation) : Parser Relation := do
  expectSign "("
  let aggregates ← items do
    let name ← objectName
    let expr ← call grammar name
    let label ← if ← takeKeyword "AS" then some <$> identifier else pure none
    return .expr expr :: (label.map fun ident => Fragment.text (" AS " ++ ident.toSql)).toList
  expectKeyword "FOR"
  let column ←
    if ← comesSign "(" then
      let names ← parenthesized (items (grammar.operandOf .range))
      pure (.text "(" :: Fragment.exprs names ++ [.text ")"])
    else
      let name ← grammar.operandOf .range
      pure [.expr name]
  expectKeyword "IN"
  expectSign "("
  let ahead ← peekKeyword
  let values : List Fragment ←
    if ← takeKeyword "ANY" then
      let order ← orderClause grammar " "
      pure (.text "ANY" :: order)
    else if ahead == "SELECT" || ahead == "WITH" then
      let query ← grammar.query
      pure [.query query]
    else
      let values ← items (namedExpr grammar)
      pure (Fragment.commas values)
  expectSign ")"
  let missing ← afterKeywords ["DEFAULT", "ON", "NULL"] (parenthesized grammar.expression)
  expectSign ")"
  let label ← tableAlias
  return .other
    (relationFragments table ++ .text " PIVOT(" :: Fragment.commas aggregates ++
      .text " FOR " :: column ++ .text " IN (" :: values ++ .text ")" ::
      (missing.map fun expr =>
        [.text " DEFAULT ON NULL (", .expr expr, .text ")"]).getD [] ++ [.text ")"])
    label []

/-- Read how columns of a table become rows, after `UNPIVOT`. -/
def unpivot (table : Relation) : Parser Relation := do
  let nulls ← match ← takeOneOf ["INCLUDE", "EXCLUDE"] with
    | some keyword =>
        expectKeyword "NULLS"
        pure (" " ++ keyword ++ " NULLS")
    | none => pure ""
  expectSign "("
  let value ← grammar.expression
  expectKeyword "FOR"
  let name ← identifier
  expectKeyword "IN"
  let columns ← parenthesized (items (namedExpr grammar))
  expectSign ")"
  let label ← tableAlias
  return .other
    (relationFragments table ++
      [.text (" UNPIVOT" ++ nulls ++ " ("), .expr value,
        .text (" FOR " ++ name.toSql ++ " IN (")] ++ Fragment.commas columns ++ [.text "))"])
    label []

/-- Read the pivots after a table. -/
def pivots (table : Relation) : Parser Relation :=
  iterate
    (fun table => do
      match ← takeOneOf ["PIVOT", "UNPIVOT"] with
      | some "PIVOT" => some <$> pivot grammar table
      | some _ => some <$> unpivot grammar table
      | none => return none)
    table

/-! ## Tables -/

/-- Read a query as a table, after its opening parenthesis. -/
def derivedTable (lateral : Bool) : Parser Relation := do
  let query ← grammar.query
  expectSign ")"
  let label ← tableAlias
  return .derived lateral query label

/-- Read the arguments of a function in parentheses. -/
def tableArguments : Parser (List Fragment) := parenthesized do
  let arguments ← itemsBefore ")" (argument grammar)
  let list : ArgumentList := ⟨"", arguments, [], false⟩
  return list.fragments

/-- Give a table that stood in parentheses the name that follows them. -/
def renamed (table : Relation) (outer : TableAlias) : Parser Relation :=
  let duplicate (inner : TableAlias) : Parser Relation :=
    refuse ("duplicate alias " ++ inner.name.toSql ++
      (if inner.columns.isEmpty then ""
        else " (" ++ String.intercalate ", " inner.columns ++ ")")) none
  match table with
  | .derived lateral query none => return .derived lateral query (some outer)
  | .nested source none => return .nested source (some outer)
  | .other body none rest => return .other body (some outer) rest
  | .derived _ _ (some inner) | .nested _ (some inner) | .other _ (some inner) _ =>
      duplicate inner

/-- Read a table or joined tables, after an opening parenthesis that opens no query. -/
def nestedTable : Parser Relation := do
  let source ← grammar.source
  match source.joins, source.relation with
  | _ :: _, _ | [], .nested _ _ =>
      expectSign ")"
      let label ← tableAlias
      return .nested source label
  | [], table =>
      if ← dialectHas Dialect.parenthesizesTables then
        expectSign ")"
        match ← tableAlias with
        | some outer => renamed table outer
        | none => return table
      else expected "joined table"

/-- Read a table in parentheses, after the opening one. -/
def parenthesizedTable : Parser Relation := do
  match ← attempt (derivedTable grammar false) with
  | some table => pivots grammar table
  | none => nestedTable grammar

/-- Read rows as a table. -/
def valuesTable (rows : Parser (List Fragment)) : Parser Relation := do
  let fragments ← rows
  let label ← tableAlias
  return .derived false ⟨false, [], .other fragments, []⟩ label

/-- Read the elements of arrays as a table, after `UNNEST`. -/
def unnestedArrays : Parser Relation := do
  let arrays ← parenthesized (items grammar.expression)
  let ordinality ← takeKeywords ["WITH", "ORDINALITY"]
  let label ← tableAlias
  let offset ← takeKeywords ["WITH", "OFFSET"]
  let offsetAlias ← if offset then optionalAlias reservedAfterTable else pure none
  return .other
    (.text "UNNEST(" :: Fragment.exprs arrays ++
      [.text (if ordinality then ") WITH ORDINALITY" else ")")])
    label
    (Fragment.words offset " WITH OFFSET" ++
      (offsetAlias.map fun ident => Fragment.text (" AS " ++ ident.toSql)).toList)

/-- Read a table that is named or that a function gives. -/
def namedTable : Parser Relation := do
  let dialect := (← read).dialect
  let name ← objectName
  let partitions ←
    if dialect.selectsPartitions then afterKeyword "PARTITION" columns else pure none
  let version ← tableVersion grammar
  let arguments ← if ← comesSign "(" then tableArguments grammar else pure []
  let ordinality ← takeKeywords ["WITH", "ORDINALITY"]
  let early ← if dialect.samplesBeforeName then tableSample grammar else pure []
  let label ← tableAlias
  let indexes ← indexHints
  let hints ← tableHints grammar
  let late ← if dialect.samplesBeforeName then pure [] else tableSample grammar
  let partition := (partitions.map fun names => "PARTITION (" ++ names ++ ")").getD ""
  let table : Relation := .other
    (.text (nameToSql name ++ partition) :: arguments ++
      Fragment.words ordinality " WITH ORDINALITY" ++ early)
    label (indexes ++ hints ++ version ++ late)
  pivots grammar table

/-- Read one table; `rows` reads the rows after `VALUES`. -/
def relation (rows : Parser (List Fragment)) : Parser Relation := do
  let dialect := (← read).dialect
  if ← takeKeyword "LATERAL" then
    if ← takeSign "(" then derivedTable grammar true
    else
      let name ← objectName
      let arguments ← tableArguments grammar
      let label ← tableAlias
      return .other (.text ("LATERAL " ++ nameToSql name) :: arguments) label []
  else if ← takeKeyword "TABLE" then
    let expr ← parenthesized grammar.expression
    let label ← tableAlias
    return .other [.text "TABLE(", .expr expr, .text ")"] label []
  else if ← takeSign "(" then parenthesizedTable grammar
  else if dialect.valuesAsTable && (← comesKeyword "VALUES") && isSign "(" (← peekAt 1) then
    skip
    valuesTable rows
  else if ← pure dialect.unnestsArrays <&&> takeKeyword "UNNEST" then unnestedArrays grammar
  else namedTable grammar

/-! ## Joins -/

/-- Read what joined rows have in common. -/
def joinConstraint (isNatural : Bool) : Parser JoinConstraint := do
  if isNatural then return .natural
  else if ← takeKeyword "ON" then return .on (← grammar.expression)
  else if ← takeKeyword "USING" then return .using (← columnNames objectName)
  else return .unconstrained

/-- Read the words of a join after `LEFT` or `RIGHT`. -/
def sidedKind (side : String) : Parser JoinKind := do
  let isLeft := side == "LEFT"
  match ← takeOneOf ["OUTER", "SEMI", "ANTI", "JOIN"] with
  | some "OUTER" =>
      expectKeyword "JOIN"
      return if isLeft then .leftOuter else .rightOuter
  | some "SEMI" =>
      expectKeyword "JOIN"
      return if isLeft then .leftSemi else .rightSemi
  | some "ANTI" =>
      expectKeyword "JOIN"
      return if isLeft then .leftAnti else .rightAnti
  | some _ => return if isLeft then .left else .right
  | none => refuse ("expected OUTER, SEMI, ANTI or JOIN after " ++ side) none

/-- Read the words of a join that may have a constraint, if they come next. -/
def constrainedKind (isNatural : Bool) : Parser (Option JoinKind) := do
  match ← peekKeyword with
  | "INNER" =>
      skip
      expectKeyword "JOIN"
      return some .inner
  | "JOIN" =>
      skip
      return some .join
  | "LEFT" =>
      skip
      some <$> sidedKind "LEFT"
  | "RIGHT" =>
      skip
      some <$> sidedKind "RIGHT"
  | "ANTI" =>
      skip
      expectKeyword "JOIN"
      return some .anti
  | "SEMI" =>
      skip
      expectKeyword "JOIN"
      return some .semi
  | "FULL" =>
      skip
      discard (takeKeyword "OUTER")
      expectKeyword "JOIN"
      return some .full
  | "STRAIGHT_JOIN" =>
      skip
      return some .straight
  | _ => if isNatural then expected "a join type after NATURAL" else return none

/-- Whether a join comes next, so that it belongs to the table before it. -/
def comesJoin : Parser Bool := do
  return ["JOIN", "INNER", "LEFT", "RIGHT", "FULL"].contains (← peekKeyword)

/-- Read a join, if one comes next. -/
def join (table : Parser Relation) : Parser (Option Join) := do
  let spread ← takeKeyword "GLOBAL"
  if ← takeKeyword "CROSS" then
    let kind ←
      if ← takeKeyword "JOIN" then pure JoinKind.cross
      else if ← takeKeyword "APPLY" then pure JoinKind.crossApply
      else expected "JOIN or APPLY after CROSS"
    return some ⟨spread, kind, ← table, [], .unconstrained⟩
  else if ← takeKeyword "OUTER" then
    expectKeyword "APPLY"
    return some ⟨spread, .outerApply, ← table, [], .unconstrained⟩
  else if ← takeKeyword "ASOF" then
    expectKeyword "JOIN"
    let right ← table
    expectKeyword "MATCH_CONDITION"
    let condition ← parenthesized grammar.expression
    let matching := [.text " MATCH_CONDITION (", .expr condition, .text ")"]
    return some ⟨spread, .asOf, right, matching, ← joinConstraint grammar false⟩
  else
    let isNatural ← takeKeyword "NATURAL"
    match ← constrainedKind isNatural with
    | none => return none
    | some kind =>
        let first ← table
        let right ←
          if (← dialectHas Dialect.nestsJoinsToTheRight) && (← comesJoin) then
            let joins ← grammar.joins
            pure (Relation.nested ⟨first, joins⟩ none)
          else pure first
        return some ⟨spread, kind, right, [], ← joinConstraint grammar isNatural⟩

/-- Read the joins that follow a table. -/
def joins (table : Parser Relation) : Parser (List Join) := many (join grammar table)

/-- Read a table with its joins. -/
def source (table : Parser Relation) : Parser Source := do
  let first ← table
  return ⟨first, ← joins grammar table⟩

end SqlScenarios.Sql.Parser
