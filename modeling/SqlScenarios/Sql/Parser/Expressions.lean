import SqlScenarios.Sql.Parser.Operators

/-!
# Expressions

`primary` reads what can start an expression, `access` the periods and brackets after it,
and `operand` the operators that follow as long as they bind tightly enough.

A word is first tried as the start of a special form.  If the form is not complete, the word
is read as a name or a call after all, unless it can be nothing but a form; the fault of the
form is reported if that fails, too.
-/

namespace SqlScenarios.Sql.Parser

variable (grammar : Grammar)

/-! ## Words -/

/-- Read a literal of a type: the type and the text of the literal.  The type has to be one
of the language's own, so that a name before a string is no type. -/
def typedLiteral : Parser Expr := do
  let type ← dataType
  match type.kind with
  | .interval => intervalForm grammar
  | .custom => refuse "dummy" none
  | .builtIn =>
      let value ← literalExpr
      return .phrase [.text (type.text ++ " "), .expr value]

/-- Read a negated expression, after `NOT`. -/
def negatedForm : Parser Expr := do
  if ← takeKeyword "EXISTS" then existence grammar true
  else .unary .not <$> grammar.operandOf .not

/-- Read the special form that a word starts, if it starts one; the word is already taken. -/
def specialForm (word : Lexeme) : Parser (Option Expr) := do
  let dialect := (← read).dialect
  let function := (ident? (some word)).getD ⟨"", none⟩
  let form (parser : Parser Expr) : Parser (Option Expr) := some <$> parser
  match word.keyword with
  | "TRUE" | "FALSE" =>
      if dialect.hasBooleanLiterals then
        return some (.literal (.boolean (word.keyword == "TRUE")))
      else return none
  | "NULL" => return some (.literal .null)
  | "CURRENT_CATALOG" | "CURRENT_USER" | "SESSION_USER" | "USER" =>
      return if dialect.userNamesAreCalls then some (.call [function] [] .absent []) else none
  | "CURRENT_TIMESTAMP" | "CURRENT_TIME" | "CURRENT_DATE" | "LOCALTIME" | "LOCALTIMESTAMP" =>
      form (timeFunction grammar function)
  | "CASE" => form (caseForm grammar)
  | "CONVERT" => form (convertForm grammar "CONVERT")
  | "TRY_CONVERT" =>
      if dialect.hasTryConvert then form (convertForm grammar "TRY_CONVERT") else return none
  | "CAST" | "TRY_CAST" | "SAFE_CAST" => form (castForm grammar word.keyword)
  | "EXISTS" =>
      let ahead ← peekKeywordAt 1
      if dialect.existsIsFunction && ahead != "SELECT" && ahead != "WITH" then return none
      else form (existence grammar false)
  | "EXTRACT" => form (extractForm grammar)
  | "CEIL" | "FLOOR" => form (roundForm grammar word.keyword)
  | "POSITION" => if ← comesSign "(" then form (positionForm grammar function) else return none
  | "SUBSTR" | "SUBSTRING" => form (substringForm grammar word.keyword)
  | "OVERLAY" => form (overlayForm grammar)
  | "TRIM" => form (trimForm grammar)
  | "INTERVAL" => form (intervalForm grammar)
  | "ARRAY" =>
      if ← takeSign "[" then form (arrayForm grammar "ARRAY")
      else if (← comesSign "(") && dialect.arrayTakesQuery then
        form (arrayOfQuery grammar function)
      else return none
  | "NOT" => form (negatedForm grammar)
  | "MATCH" => if dialect.hasMatchAgainst then form matchForm else return none
  | "STRUCT" => if dialect.hasStructLiterals then form (structForm grammar) else return none
  | "PRIOR" =>
      if (← read).hierarchical then form do
        let expr ← grammar.operandOf .additive
        return .phrase [.text "PRIOR ", .expr expr]
      else return none
  | "MAP" =>
      if (← comesSign "\x7b") && dialect.hasMapLiterals then form (mapForm grammar)
      else return none
  | _ => return none

/-- Words that are names only where a special form of theirs is complete. -/
def formOnlyWords : List String := ["EXISTS", "INTERVAL", "STRUCT", "TRIM"]

/-- Read the name or the call that a word starts; the word is already taken. -/
def nameOrCall (word : Lexeme) : Parser Expr := do
  let ident := (ident? (some word)).getD ⟨"", none⟩
  let ahead ← peek
  if isSign "(" ahead then call grammar [ident]
  else
    match ahead with
    | some ⟨.string .single _, _, _⟩ | some ⟨.string .double _, _, _⟩
    | some ⟨.string .hexadecimal _, _, _⟩ =>
        if "_".toList.isPrefixOf ident.text.toList then
          let value ← literalExpr
          return .phrase [.text (ident.toSql ++ " "), .expr value]
        else return .name [ident]
    | _ => return .name [ident]

/-- Read what a word starts; the word is already taken. -/
def wordForm (word : Lexeme) : Parser Expr := do
  let dialect := (← read).dialect
  let result ← tryCatch
    (do
      match ← specialForm grammar word with
      | some expr => return Except.ok expr
      | none => return Except.error none)
    fun fault => return Except.error (some fault)
  match result with
  | .ok expr => return expr
  | .error none => nameOrCall grammar word
  | .error (some fault) =>
      let isForm := formOnlyWords.contains word.keyword &&
        !(word.keyword == "INTERVAL" && dialect.intervalMayBeName)
      if isForm then throw fault
      else
        match ← attempt (nameOrCall grammar word) with
        | some expr => return expr
        | none => throw fault

/-! ## Primaries -/

/-- Read what stands in parentheses, after the opening one: a query, an expression or
several expressions. -/
def parenthesizedForm : Parser Expr := do
  let keyword ← peekKeyword
  if keyword == "SELECT" || keyword == "WITH" then
    let query ← grammar.query
    expectSign ")"
    return subquery query
  else
    let exprs ← items grammar.expression
    expectSign ")"
    match exprs with
    | [expr] => return .paren expr
    | _ => return .phrase (.text "(" :: Fragment.exprs exprs ++ [.text ")"])

/-- Read the operand of a sign before it. -/
def prefixForm (op : UnaryOp) (group : Precedence) : Parser Expr := do
  skip
  return .unary op (← grammar.operandOf group)

/-- Read what can start an expression and is no word. -/
def signForm (lexeme : Lexeme) : Parser Expr := do
  let dialect := (← read).dialect
  match lexeme.token with
  | .string .escaped _ =>
      if dialect.hasEscapeStrings then literalExpr else expected "an expression"
  | .number _ _ | .string _ _ | .placeholder _ => literalExpr
  | .sign ":" => literalExpr
  | .sign "@" =>
      if dialect.hasPrefixRoots then prefixForm grammar (.other "@") .additive else literalExpr
  | .sign "-" => prefixForm grammar .minus .multiplicative
  | .sign "+" => prefixForm grammar .plus .multiplicative
  | .sign "!" =>
      if dialect.negatesWithExclamationMark then
        prefixForm grammar (.other "!") .not
      else expected "an expression"
  | .sign "!!" | .sign "|/" | .sign "||/" | .sign "~" =>
      if dialect.hasPrefixRoots then
        prefixForm grammar (.other lexeme.token.spelling) .additive
      else expected "an expression"
  | .sign "[" =>
      skip
      arrayForm grammar ""
  | .sign "(" =>
      skip
      parenthesizedForm grammar
  | .sign "\x7b" =>
      if dialect.hasDictionaries then dictionaryForm grammar else expected "an expression"
  | _ => expected "an expression"

/-- Read what can start an expression. -/
def primary : Parser Expr := do
  match ← attempt (typedLiteral grammar) with
  | some expr => return expr
  | none =>
      match ← peek with
      | some ⟨.word text delimiter, keyword, position⟩ =>
          skip
          wordForm grammar ⟨.word text delimiter, keyword, position⟩
      | some lexeme => signForm grammar lexeme
      | none => expected "an expression"

/-! ## Accesses -/

/-- A step from a value to a part of it. -/
inductive Access where
  | part (expr : Expr)
  | subscript (fragments : List Fragment)

/-- Read a subscript after its opening bracket, the closing one included. -/
def subscript : Parser (List Fragment) := do
  let close (parts : List Fragment) : Parser (List Fragment) := do
    expectSign "]"
    return .text "[" :: parts ++ [.text "]"]
  let lower ← if ← comesSign ":" then pure [] else
    let index ← grammar.expression
    pure [.expr index]
  if ← comesSign "]" then close lower
  else
    expectSign ":"
    if ← comesSign "]" then close (lower ++ [.text ":"])
    else
      let upper ← grammar.expression
      let slice := lower ++ [.text ":", .expr upper]
      if ← comesSign "]" then close slice
      else
        expectSign ":"
        if ← comesSign "]" then close (slice ++ [.text ":"])
        else
          let stride ← grammar.expression
          close (slice ++ [.text ":", .expr stride])

/-- Read the periods and brackets after a value.  A period before a star is left where it
is. -/
def accesses : Parser (List (List Access)) := many do
  if (← comesSign ".") && !isSign "*" (← peekAt 1) then
    skip
    match ← peek with
    | some ⟨.string .single content, _, _⟩ =>
        skip
        return some [.part (.name [⟨content, some '\''⟩])]
    | _ =>
        match ← grammar.operandOf .period with
        | .name parts => return some (parts.map fun part => .part (.name [part]))
        | expr => return some [.part expr]
  else if (← comesSign "[") && !(← dialectHas Dialect.bracketEntersValues) then
    skip
    return some [.subscript (← subscript grammar)]
  else return none

/-- The identifiers of accesses that are nothing but names. -/
def accessNames : List Access → Option (List Ident)
  | [] => some []
  | .part (.name parts) :: rest => (accessNames rest).map (parts ++ ·)
  | _ => none

/-- The text of an access, as a phrase. -/
def Access.fragments : Access → List Fragment
  | part expr => [.text ".", .expr expr]
  | subscript fragments => fragments

/-- A value with the parts of it that are accessed.  Names make up a qualified name, and a
call after names is a call of a qualified function. -/
def accessed (root : Expr) (chain : List Access) : Expr :=
  let general : Expr := .phrase (.expr root :: chain.flatMap Access.fragments)
  match chain, root with
  | [], _ => root
  | _, .name parts =>
      match accessNames chain with
      | some rest => .name (parts ++ rest)
      | none =>
          match accessNames chain.dropLast, chain.getLast? with
          | some rest, some (.part (.call function parameters arguments suffix)) =>
              .call (parts ++ rest ++ function) parameters arguments suffix
          | _, _ => general
  | _, _ => general

/-! ## Operands -/

/-- Read the operators that bind tighter than the given precedence, with their operands. -/
def operators (precedence : Nat) (left : Expr) : Parser Expr :=
  iterate
    (fun left => do
      let ahead ← precedenceAhead
      if precedence < ahead && !(← comesSign ".") then some <$> infixForm grammar left ahead
      else return none)
    left

/-- Read an expression up to the next operator that does not bind tighter than the given
precedence. -/
def operand (precedence : Nat) : Parser Expr := deeper do
  let root ← primary grammar
  let chain ← accesses grammar
  let value := accessed root chain.flatten
  let collated ←
    match ← afterKeyword "COLLATE" objectName with
    | some collation =>
        pure (.phrase [.expr value, .text (" COLLATE " ++ nameToSql collation)])
    | none => pure value
  operators grammar precedence collated

end SqlScenarios.Sql.Parser
