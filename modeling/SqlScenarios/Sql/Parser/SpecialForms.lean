import SqlScenarios.Sql.Parser.Calls

/-!
# Special forms

Expressions that start with a word of their own and are no calls, although some look like
one: `CASE`, `CAST`, `EXTRACT`, `SUBSTRING`, `TRIM`, intervals, arrays and their kin.  They
are phrases in the tree.  Each parser below starts after the word.
-/

namespace SqlScenarios.Sql.Parser

variable (grammar : Grammar)

/-- Read what `EXISTS` asks about. -/
def existence (negated : Bool) : Parser Expr := do
  let query ← parenthesized grammar.query
  return .phrase [.text (negation negated ++ "EXISTS ("), .query query, .text ")"]

/-- Read a condition with its result, after `WHEN`. -/
def caseBranch : Parser (List Fragment) := do
  let condition ← grammar.expression
  expectKeyword "THEN"
  let result ← grammar.expression
  return [.text " WHEN ", .expr condition, .text " THEN ", .expr result]

/-- Read the branches of a `CASE`. -/
def caseForm : Parser Expr := do
  let subject ←
    if ← takeKeyword "WHEN" then pure []
    else
      let subject ← grammar.expression
      expectKeyword "WHEN"
      pure [.text " ", .expr subject]
  let first ← caseBranch grammar
  let rest ← many (afterKeyword "WHEN" (caseBranch grammar))
  let otherwise ← afterKeyword "ELSE" grammar.expression
  expectKeyword "END"
  return .phrase (.text "CASE" :: subject ++ first ++ rest.flatten ++
    Fragment.optional " ELSE " (otherwise.map fun expr => [.expr expr]) ++ [.text " END"])

/-- Read a conversion to a type. -/
def castForm (keyword : String) : Parser Expr := parenthesized do
  let expr ← grammar.expression
  expectKeyword "AS"
  let type ← dataType
  let format ← afterKeyword "FORMAT" literalExpr
  return .phrase ([.text (keyword ++ "("), .expr expr, .text (" AS " ++ type.text)] ++
    Fragment.optional " FORMAT " (format.map fun expr => [.expr expr]) ++ [.text ")"])

/-- Read a conversion to a type or to a set of characters. -/
def convertForm (keyword : String) : Parser Expr := parenthesized do
  if ← dialectHas Dialect.convertsTypeFirst then
    let type ← dataType
    expectSign ","
    let expr ← grammar.expression
    let styles ← if ← takeSign "," then items grammar.expression else pure []
    return .phrase ([.text (keyword ++ "(" ++ type.text ++ ", "), .expr expr] ++
      (if styles.isEmpty then [] else .text ", " :: Fragment.exprs styles) ++ [.text ")"])
  else
    let expr ← grammar.expression
    if ← takeKeyword "USING" then
      let charset ← objectName
      return .phrase [.text (keyword ++ "("), .expr expr,
        .text (" USING " ++ nameToSql charset ++ ")")]
    else
      expectSign ","
      let type ← dataType
      let charset ← afterKeywords ["CHARACTER", "SET"] objectName
      let suffix := (charset.map fun name => " CHARACTER SET " ++ nameToSql name).getD ""
      return .phrase [.text (keyword ++ "("), .expr expr,
        .text (", " ++ type.text ++ suffix ++ ")")]

/-! ## Dates -/

/-- The parts of a date that have a name. -/
def dateFields : List String :=
  ["YEAR", "YEARS", "MONTH", "MONTHS", "WEEK", "WEEKS", "DAY", "DAYOFWEEK", "DAYOFYEAR", "DAYS",
    "DATE", "DATETIME", "HOUR", "HOURS", "CENTURY", "DECADE", "DOY", "DOW", "EPOCH", "ISODOW",
    "ISOYEAR", "ISOWEEK", "JULIAN", "MICROSECOND", "MICROSECONDS", "MILLENIUM", "MILLENNIUM",
    "MILLISECOND", "MILLISECONDS", "MINUTE", "MINUTES", "NANOSECOND", "NANOSECONDS", "QUARTER",
    "SECOND", "SECONDS", "TIME", "TIMEZONE", "TIMEZONE_ABBR", "TIMEZONE_HOUR",
    "TIMEZONE_MINUTE", "TIMEZONE_REGION"]

/-- The parts of a date that can be the unit of an interval. -/
def temporalUnits : List String :=
  ["YEAR", "YEARS", "MONTH", "MONTHS", "WEEK", "WEEKS", "DAY", "DAYS", "HOUR", "HOURS", "MINUTE",
    "MINUTES", "SECOND", "SECONDS", "CENTURY", "DECADE", "DOW", "DOY", "EPOCH", "ISODOW",
    "ISOYEAR", "JULIAN", "MICROSECOND", "MICROSECONDS", "MILLENIUM", "MILLENNIUM",
    "MILLISECOND", "MILLISECONDS", "NANOSECOND", "NANOSECONDS", "QUARTER", "TIMEZONE",
    "TIMEZONE_HOUR", "TIMEZONE_MINUTE"]

/-- Read a part of a date. -/
def dateField : Parser String := do
  let lexeme ← next
  match lexeme with
  | some ⟨.word text delimiter, keyword, _⟩ =>
      if keyword == "WEEK" then
        if ← takeSign "(" then
          let day ← identifier
          expectSign ")"
          return "WEEK(" ++ day.toSql ++ ")"
        else return "WEEK"
      else if dateFields.contains keyword then return keyword
      else if ← dialectHas Dialect.extractsAnyField then return (Ident.mk text delimiter).toSql
      else expectedInsteadOf "date/time field" lexeme
  | some ⟨.string .single content, _, _⟩ =>
      if ← dialectHas Dialect.extractsQuotedField then
        return (Ident.mk content (some '\'')).toSql
      else expectedInsteadOf "date/time field" lexeme
  | _ => expectedInsteadOf "date/time field" lexeme

/-- Read what part of which date is extracted. -/
def extractForm : Parser Expr := parenthesized do
  let field ← dateField
  let separator ←
    if ← takeKeyword "FROM" then pure " FROM "
    else if ← dialectHas Dialect.extractWithComma <&&> takeSign "," then pure ", "
    else refuse "Expected 'FROM' or ','" none
  let expr ← grammar.expression
  return .phrase [.text ("EXTRACT(" ++ field ++ separator), .expr expr, .text ")"]

/-- Read a unit of an interval with its precision. -/
def intervalUnit : Parser String := do
  let field ← dateField
  if field == "SECOND" then
    let precision ← optionalPrecisionScale
    return if precision.isEmpty then field
      else field ++ " " ++ String.intercalate ", " (precision.splitOn ",")
  else
    let precision ← optionalLength
    if ← takeKeyword "TO" then
      let last ← dateField
      let fraction ← if last == "SECOND" then optionalLength else pure ""
      return field ++ (if precision.isEmpty then "" else " " ++ precision) ++ " TO " ++ last ++
        (if fraction.isEmpty then "" else " " ++ fraction)
    else return field ++ (if precision.isEmpty then "" else " " ++ precision)

/-- Read an interval. -/
def intervalForm : Parser Expr := do
  let needsUnit ← dialectHas Dialect.intervalNeedsUnit
  let value ← if needsUnit then grammar.expression else grammar.primary
  if temporalUnits.contains (← peekKeyword) then
    let unit ← intervalUnit
    return .phrase [.text "INTERVAL ", .expr value, .text (" " ++ unit)]
  else if needsUnit then
    refuse "INTERVAL requires a unit after the literal value" (← place)
  else return .phrase [.text "INTERVAL ", .expr value]

/-- Read the precision of a word that is a call without arguments, or the arguments it has
after all. -/
def timeFunction (function : Ident) : Parser Expr := do
  if ← takeSign "(" then
    let list ← argumentList grammar
    return .call [function] [] (.list list.quantifier list.items list.clauses) []
  else return .call [function] [] .absent []

/-! ## Texts and numbers -/

/-- Read a rounding up or down. -/
def roundForm (keyword : String) : Parser Expr := parenthesized do
  let expr ← grammar.expression
  let unit ←
    if ← takeKeyword "TO" then (" TO " ++ ·) <$> dateField
    else if ← takeSign "," then
      match ← literal with
      | .number digits long => pure (", " ++ (Literal.number digits long).toSql)
      | _ => refuse "Scale field can only be of number type" none
    else pure ""
  return .phrase [.text (keyword ++ "("), .expr expr, .text (unit ++ ")")]

/-- Read where a text stands in another; without `IN` this is an ordinary call. -/
def positionForm (function : Ident) : Parser Expr := do
  let form ← attempt <| parenthesized do
    let expr ← grammar.operandOf .range
    expectKeyword "IN"
    let text ← grammar.expression
    return .phrase [.text "POSITION(", .expr expr, .text " IN ", .expr text, .text ")"]
  match form with
  | some expr => return expr
  | none => call grammar [function]

/-- Read a part of a text. -/
def substringForm (keyword : String) : Parser Expr := parenthesized do
  let text ← grammar.expression
  let commas ← takeSign ","
  let start ← if commas then some <$> grammar.expression
    else afterKeyword "FROM" grammar.expression
  let length ←
    if ← takeKeyword "FOR" <||> takeSign "," then some <$> grammar.expression else pure none
  let clause (words : String) (expr : Option Expr) : List Fragment :=
    Fragment.optional (if commas then ", " else words) (expr.map fun expr => [.expr expr])
  return .phrase ([.text (keyword ++ "("), .expr text] ++ clause " FROM " start ++
    clause " FOR " length ++ [.text ")"])

/-- Read a text with a part of it replaced. -/
def overlayForm : Parser Expr := parenthesized do
  let text ← grammar.expression
  expectKeyword "PLACING"
  let replacement ← grammar.expression
  expectKeyword "FROM"
  let start ← grammar.expression
  let length ← afterKeyword "FOR" grammar.expression
  return .phrase ([.text "OVERLAY(", .expr text, .text " PLACING ", .expr replacement,
    .text " FROM ", .expr start] ++
    Fragment.optional " FOR " (length.map fun expr => [.expr expr]) ++ [.text ")"])

/-- Read a text without some characters at its ends. -/
def trimForm : Parser Expr := parenthesized do
  let side := (← takeOneOf ["BOTH", "LEADING", "TRAILING"]).elim "" (· ++ " ")
  let first ← grammar.expression
  if ← takeKeyword "FROM" then
    let text ← grammar.expression
    return .phrase [.text ("TRIM(" ++ side), .expr first, .text " FROM ", .expr text, .text ")"]
  else if (← comesSign ",") && (← dialectHas Dialect.trimsCharacters) then
    skip
    let characters ← items grammar.expression
    return .phrase ([.text "TRIM(", .expr first, .text ", "] ++ Fragment.exprs characters ++
      [.text ")"])
  else
    discard (takeSign ",")
    return .phrase [.text ("TRIM(" ++ side), .expr first, .text ")"]

/-! ## Collections -/

/-- Read the elements of an array after its opening bracket. -/
def arrayForm (words : String) : Parser Expr := do
  let elements ← itemsBefore "]" grammar.expression
  expectSign "]"
  return .phrase (.text (words ++ "[") :: Fragment.exprs elements ++ [.text "]"])

/-- Read the array that a query gives. -/
def arrayOfQuery (function : Ident) : Parser Expr := do
  let query ← parenthesized grammar.query
  return .call [function] [] (.query query) []

/-- Read an element of a structure, perhaps with its name. -/
def structElement : Parser (List Fragment) := do
  let expr ← grammar.expression
  let name ← afterKeyword "AS" identifier
  return .expr expr :: (name.map fun ident => Fragment.text (" AS " ++ ident.toSql)).toList

/-- Read the elements of a structure. -/
def structForm : Parser Expr := parenthesized do
  let elements ← items (structElement grammar)
  return .phrase (.text "STRUCT(" :: Fragment.commas elements ++ [.text ")"])

/-- Read the entries of a dictionary. -/
def dictionaryForm : Parser Expr := do
  expectSign "\x7b"
  let entries ← itemsBefore "\x7d" do
    let key ← identifier
    expectSign ":"
    return [.text (key.toSql ++ ": "), .expr (← grammar.expression)]
  expectSign "\x7d"
  return .phrase (.text "\x7b" :: Fragment.commas entries ++ [.text "\x7d"])

/-- Read the entries of a map. -/
def mapForm : Parser Expr := do
  expectSign "\x7b"
  let entries ← itemsBefore "\x7d" do
    let key ← grammar.expression
    expectSign ":"
    return [.expr key, .text ": ", .expr (← grammar.expression)]
  expectSign "\x7d"
  return .phrase (.text "MAP \x7b" :: Fragment.commas entries ++ [.text "\x7d"])

/-- Read which columns are searched for a text. -/
def matchForm : Parser Expr := do
  let columns ← columns
  expectKeyword "AGAINST"
  expectSign "("
  let text ← literalExpr
  let mode ←
    if ← takeKeywords ["IN", "NATURAL", "LANGUAGE", "MODE", "WITH", "QUERY", "EXPANSION"] then
      pure " IN NATURAL LANGUAGE MODE WITH QUERY EXPANSION"
    else if ← takeKeywords ["IN", "NATURAL", "LANGUAGE", "MODE"] then
      pure " IN NATURAL LANGUAGE MODE"
    else if ← takeKeywords ["IN", "BOOLEAN", "MODE"] then pure " IN BOOLEAN MODE"
    else if ← takeKeywords ["WITH", "QUERY", "EXPANSION"] then pure " WITH QUERY EXPANSION"
    else pure ""
  expectSign ")"
  return .phrase [.text ("MATCH (" ++ columns ++ ") AGAINST ("), .expr text, .text (mode ++ ")")]

end SqlScenarios.Sql.Parser
