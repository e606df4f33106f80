import SqlScenarios.Sql.Parser.SpecialForms

/-!
# Operators

What may follow an operand: signs and words between two operands, tests such as `IS NULL`,
and the predicates `IN`, `BETWEEN` and `LIKE`.  `precedenceAhead` tells how tightly the
operator that comes next binds, and `infix` reads that operator with what belongs to it.
-/

namespace SqlScenarios.Sql.Parser

variable (grammar : Grammar)

/-- Words that `NOT` may precede between two operands, with their groups. -/
def negatableWords : List (String × Precedence) :=
  [("IN", .range), ("BETWEEN", .range), ("LIKE", .like), ("ILIKE", .like), ("RLIKE", .like),
    ("REGEXP", .like), ("MATCH", .like), ("SIMILAR", .like), ("MEMBER", .like)]

/-- Words between two operands, with their groups. -/
def operatorWords : List (String × Precedence) :=
  [("OR", .or), ("AND", .and), ("XOR", .xor), ("IS", .is), ("OVERLAPS", .range),
    ("OPERATOR", .range), ("DIV", .multiplicative)] ++ negatableWords

/-- Signs between two operands, with their groups. -/
def operatorSigns : List (String × Precedence) :=
  [(".", .period), (":=", .comparison), ("=", .comparison), ("<", .comparison),
    ("<=", .comparison), ("<>", .comparison), (">", .comparison), (">=", .comparison),
    ("==", .comparison), ("~", .comparison), ("~*", .comparison), ("!~", .comparison),
    ("!~*", .comparison), ("~~", .comparison), ("~~*", .comparison), ("!~~", .comparison),
    ("!~~*", .comparison), ("<=>", .comparison), ("|", .pipe), ("^", .caret), ("#", .caret),
    (">>", .caret), ("<<", .caret), ("&", .ampersand), ("+", .additive), ("-", .additive),
    ("*", .multiplicative), ("/", .multiplicative), ("//", .multiplicative),
    ("%", .multiplicative), ("||", .multiplicative), ("::", .cast), ("!", .cast),
    ("[", .bracket), ("&&", .cast), ("^@", .cast), ("->", .extension), ("->>", .extension),
    ("#>", .extension), ("#>>", .extension), ("@>", .extension), ("<@", .extension),
    ("#-", .extension), ("@?", .extension), ("@@", .extension), ("?", .extension),
    ("?|", .extension), ("?&", .extension)]

/-- Signs that are in the group of the extensions where that is a group of its own. -/
def extensionSigns : List String := ["!", "&&", "^@", "||", "#", ">>", "<<"]

/-- The group of a sign between two operands. -/
def signGroup? (dialect : Dialect) (text : String) : Option Precedence :=
  if dialect.hasOwnPrecedences && extensionSigns.contains text then some .extension
  else operatorSigns.lookup text

/-- The group of the operator that comes next, if one does. -/
def groupAhead : Parser (Option Precedence) := do
  let dialect := (← read).dialect
  match ← peek with
  | none => return none
  | some ⟨.operator _, _, _⟩ => return some .extension
  | some ⟨.sign ":", _, _⟩ => return if dialect.colonEntersValues then some .cast else none
  | some ⟨.sign text, _, _⟩ => return signGroup? dialect text
  | some ⟨.word _ none, keyword, _⟩ =>
      match keyword with
      | "AT" =>
          if (← peekKeywordAt 1) == "TIME" && (← peekKeywordAt 2) == "ZONE" then
            return some .timeZone
          else return none
      | "NOT" =>
          let ahead ← peekKeywordAt 1
          return if ahead == "NULL" then some .is else negatableWords.lookup ahead
      | "NOTNULL" => return if dialect.hasNotNullOperator then some .is else none
      | _ => return operatorWords.lookup keyword
  | some _ => return none

/-- How tightly the next operator binds; zero if no operator comes next. -/
def precedenceAhead : Parser Nat := do
  let dialect := (← read).dialect
  return (← groupAhead).elim 0 dialect.level

/-- The operator that a sign is, if the sign is one in every place. -/
def binarySign (dialect : Dialect) (text : String) : Option BinaryOp :=
  match text with
  | "=" | "==" => some .equal
  | ">" => some .greater
  | "//" => if dialect.dividesWithSlashes then some (.other "//") else none
  | "<<" | ">>" => if dialect.shiftsWithBrackets then some (.other text) else none
  | "#" => if dialect.numberSignIsOperator then some (.other "#") else none
  | "&&" => if dialect.ampersandsOverlap then some (.other "&&") else none
  | "^@" => if dialect.caretAtIsOperator then some (.other "^@") else none
  | "::" | "!" | "[" | "." | ":" => none
  | _ => if (operatorSigns.lookup text).isSome then some (.other text) else none

/-- Read the operator that `OPERATOR` names. -/
def namedOperator : Parser BinaryOp := do
  expectSign "("
  let part : Parser String := do
    match ← next with
    | some lexeme => return lexeme.token.spelling
    | none => return "EOF"
  let first ← part
  let rest ← many do
    if ← takeSign "." then return some (← part) else return none
  expectSign ")"
  return .other ("OPERATOR(" ++ String.intercalate "." (first :: rest) ++ ")")

/-- The operator that an already taken lexeme starts, if it is one in every place. -/
def binaryOperator (lexeme : Lexeme) : Parser (Option BinaryOp) := do
  let dialect := (← read).dialect
  match lexeme.token, lexeme.keyword with
  | .sign text, _ => return binarySign dialect text
  | .operator text, _ => return some (.other text)
  | _, "AND" => return some .and
  | _, "OR" => return some .or
  | _, "XOR" => return some (.other "XOR")
  | _, "OVERLAPS" => return some (.other "OVERLAPS")
  | _, "DIV" => return if dialect.hasDivWord then some (.other "DIV") else none
  | _, "REGEXP" => return if dialect.matchesWithWords then some (.other "REGEXP") else none
  | _, "MATCH" => return if dialect.matchesWithWords then some (.other "MATCH") else none
  | _, "OPERATOR" => if dialect.namesOperators then some <$> namedOperator else return none
  | _, _ => return none

/-- The comparisons that can be made with any or all of several values. -/
def quantifiableOperators : List String :=
  [">", "<", ">=", "<=", "=", "<>", "~", "~*", "!~", "!~*", "~~", "~~*", "!~~", "!~~*"]

/-- A query in parentheses as an expression. -/
def subquery (query : Query) : Expr := .phrase [.text "(", .query query, .text ")"]

/-- Whether an expression is a query in parentheses. -/
def isSubquery : Expr → Bool
  | .phrase [.text "(", .query _, .text ")"] => true
  | _ => false

/-- Read the right operand of an operator.  After `ANY`, `SOME` and `ALL` the values to
compare with stand in parentheses; those of a query belong to the query. -/
def rightOperand (left : Expr) (op : BinaryOp) (position : Position) (precedence : Nat) :
    Parser Expr := do
  match ← takeOneOf ["ANY", "ALL", "SOME"] with
  | none => return .binary left op (← grammar.operand precedence)
  | some keyword =>
      unless ← comesSign "(" do expected "("
      let ahead ← peekKeywordAt 1
      let right ←
        if ahead == "SELECT" || ahead == "WITH" then grammar.operand precedence
        else parenthesized (grammar.operand precedence)
      unless quantifiableOperators.contains op.toSql do
        refuse ("Expected one of [=, >, <, =>, =<, !=, ~, ~*, !~, !~*, ~~, ~~*, !~~, !~~*] as " ++
          "comparison operator, found: " ++ op.toSql) (some position)
      let values : List Fragment :=
        if isSubquery right then [.expr right] else [.text "(", .expr right, .text ")"]
      return .phrase ([.expr left, .text (" " ++ op.toSql ++ " " ++ keyword)] ++ values)

/-! ## Tests -/

/-- The words of the tests after `IS` that take no operand. -/
def isTests : List (List String) :=
  [["NULL"], ["NOT", "NULL"], ["TRUE"], ["NOT", "TRUE"], ["FALSE"], ["NOT", "FALSE"],
    ["UNKNOWN"], ["NOT", "UNKNOWN"]]

/-- Read the first group of words that comes next. -/
def takeFirstGroup : List (List String) → Parser (Option (List String))
  | [] => return none
  | group :: rest => do
      if ← takeKeywords group then return some group else takeFirstGroup rest

/-- Read a test after `IS`. -/
def isTest (subject : Expr) : Parser Expr := do
  let test (words : String) : Expr := .phrase [.expr subject, .text (" IS " ++ words)]
  match ← takeFirstGroup isTests with
  | some group => return test (String.intercalate " " group)
  | none =>
      match ← takeFirstGroup [["DISTINCT", "FROM"], ["NOT", "DISTINCT", "FROM"]] with
      | some group =>
          let other ← grammar.expression
          return .phrase [.expr subject, .text (" IS " ++ String.intercalate " " group ++ " "),
            .expr other]
      | none =>
          let negated ← takeKeyword "NOT"
          let form := (← takeOneOf ["NFC", "NFD", "NFKC", "NFKD"]).elim "" (· ++ " ")
          if ← takeKeyword "NORMALIZED" then
            return test (negation negated ++ form ++ "NORMALIZED")
          else
            expected "[NOT] NULL | TRUE | FALSE | DISTINCT | [form] NORMALIZED FROM after IS"

/-! ## Predicates -/

/-- Read what a value is searched in, after `IN`. -/
def membership (subject : Expr) (negated : Bool) : Parser Expr := do
  if ← takeKeyword "UNNEST" then
    let array ← parenthesized grammar.expression
    return .phrase [.expr subject, .text (" " ++ negation negated ++ "IN UNNEST("), .expr array,
      .text ")"]
  else parenthesized do
    match ← attempt grammar.query with
    | some query => return .inQuery subject negated query
    | none =>
        let members ←
          if ← dialectHas Dialect.allowsEmptyInList then itemsBefore ")" grammar.expression
          else items grammar.expression
        return .inList subject negated members

/-- Read the bounds of a range, after `BETWEEN`. -/
def range (subject : Expr) (negated : Bool) : Parser Expr := do
  let low ← grammar.operandOf .range
  expectKeyword "AND"
  let high ← grammar.operandOf .range
  return .between subject negated low high

/-- Read the pattern that a text is compared with, after the word for the comparison. -/
def likeness (subject : Expr) (negated : Bool) (words : String) (quantified escaped : Bool) :
    Parser Expr := do
  let any ← if quantified then takeKeyword "ANY" else pure false
  let pattern ← grammar.operandOf .like
  let escape ← if escaped then afterKeyword "ESCAPE" literalExpr else pure none
  return .phrase ([.expr subject, .text (" " ++ negation negated ++ words ++ " "),
    .text (if any then "ANY " else ""), .expr pattern] ++
    Fragment.optional " ESCAPE " (escape.map fun expr => [.expr expr]))

/-- Read a predicate that may be negated, `NOT` included. -/
def predicate (subject : Expr) : Parser Expr := do
  let negated ← takeKeyword "NOT"
  let regexp ← takeKeyword "REGEXP"
  let rlike ← takeKeyword "RLIKE"
  let missing ← takeKeyword "NULL"
  if regexp || rlike then
    likeness grammar subject negated (if regexp then "REGEXP" else "RLIKE") false false
  else if negated && missing then return .phrase [.expr subject, .text " IS NOT NULL"]
  else if ← takeKeyword "IN" then membership grammar subject negated
  else if ← takeKeyword "BETWEEN" then range grammar subject negated
  else if ← takeKeyword "LIKE" then likeness grammar subject negated "LIKE" true true
  else if ← takeKeyword "ILIKE" then likeness grammar subject negated "ILIKE" true true
  else if ← takeKeywords ["SIMILAR", "TO"] then
    likeness grammar subject negated "SIMILAR TO" false true
  else expected "IN or BETWEEN after NOT"

/-- Read the array that a value is searched in, after `MEMBER`. -/
def arrayMembership (subject : Expr) : Parser Expr := do
  unless ← takeKeyword "OF" do expected "OF after MEMBER"
  let array ← parenthesized grammar.expression
  return .phrase [.expr subject, .text " MEMBER OF(", .expr array, .text ")"]

/-! ## Nested values -/

/-- Read a key of a nested value. -/
def nestedKey : Parser String := do
  let lexeme ← next
  match lexeme with
  | some ⟨.word text none, _, _⟩ => return text
  | some ⟨.word text (some '"'), _, _⟩ => return "\"" ++ text ++ "\""
  | some ⟨.string .double text, _, _⟩ => return "\"" ++ text ++ "\""
  | _ => expectedInsteadOf "variant object key name" lexeme

/-- Read the way into a nested value. -/
def nestedPath (subject : Expr) : Parser Expr := do
  let start ←
    if ← takeSign ":" then
      let key ← nestedKey
      pure [.text (":" ++ key)]
    else pure []
  let steps ← many do
    if ← takeSign "[" then
      let index ← grammar.expression
      expectSign "]"
      return some [.text "[", .expr index, .text "]"]
    else if ← takeSign "." then
      let key ← nestedKey
      return some [Fragment.text ("." ++ key)]
    else return none
  return .phrase (.expr subject :: start ++ steps.flatten)

/-! ## Infix forms -/

/-- The name of a sign that is no operator where it stands. -/
def signName : String → String
  | "!" => "ExclamationMark"
  | "&&" => "Overlap"
  | "^@" => "CaretAt"
  | "#" => "Sharp"
  | "<<" => "ShiftLeft"
  | ">>" => "ShiftRight"
  | "//" => "DuckIntDiv"
  | "[" => "LBracket"
  | text => text

/-- The name of a lexeme that is no operator where it stands. -/
def lexemeName (lexeme : Lexeme) : String :=
  match lexeme.token with
  | .sign text => signName text
  | .word text _ =>
      "Word(Word \x7b value: \"" ++ text ++ "\", quote_style: None, keyword: " ++
        lexeme.keyword ++ " \x7d)"
  | token => token.spelling

/-- Read the operator that comes next, which binds with the given precedence, and what
belongs to it besides its left operand. -/
def infixForm (left : Expr) (precedence : Nat) : Parser Expr := do
  match ← next with
  | none => return left
  | some lexeme =>
      let misplaced : Parser Expr :=
        refuse ("No infix parser for token " ++ lexemeName lexeme) (some lexeme.position)
      match ← binaryOperator lexeme with
      | some op => rightOperand grammar left op lexeme.position precedence
      | none =>
          match lexeme.token, lexeme.keyword with
          | .sign "::", _ =>
              let type ← dataType
              return .phrase [.expr left, .text ("::" ++ type.text)]
          | .sign "!", _ =>
              if ← dialectHas Dialect.hasFactorial then
                return .phrase [.expr left, .text "!"]
              else misplaced
          | .sign "[", _ =>
              if ← dialectHas Dialect.bracketEntersValues then
                modify (lexeme :: ·)
                nestedPath grammar left
              else misplaced
          | .sign ":", _ =>
              modify (lexeme :: ·)
              nestedPath grammar left
          | _, "IS" => isTest grammar left
          | _, "AT" =>
              expectKeywords ["TIME", "ZONE"]
              let zone ← grammar.operand precedence
              return .phrase [.expr left, .text " AT TIME ZONE ", .expr zone]
          | _, "NOTNULL" => return .phrase [.expr left, .text " IS NOT NULL"]
          | _, "MEMBER" => arrayMembership grammar left
          | _, "MATCH" => misplaced
          | _, keyword =>
              if keyword == "NOT" || (negatableWords.lookup keyword).isSome then
                modify (lexeme :: ·)
                predicate grammar left
              else misplaced

end SqlScenarios.Sql.Parser
