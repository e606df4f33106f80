import SqlScenarios.Sql.Parser.Literals

/-!
# Calls

The arguments of a call and the clauses after them.  The clauses are phrases: nothing but
their text is ever needed, although they may hold expressions.
-/

namespace SqlScenarios.Sql.Parser

variable (grammar : Grammar)

/-! ## Order and windows -/

/-- Read the direction of an order and the place of missing values in it. -/
def orderOptions : Parser (List Fragment) := do
  let direction ← takeOneOf ["ASC", "DESC"]
  let missing ←
    if ← takeKeywords ["NULLS", "FIRST"] then pure [.text " NULLS FIRST"]
    else if ← takeKeywords ["NULLS", "LAST"] then pure [.text " NULLS LAST"]
    else pure []
  return direction.elim [] (fun keyword => [.text (" " ++ keyword)]) ++ missing

/-- Read what an order fills up with rows, if it does. -/
def orderFill : Parser (List Fragment) := do
  if ← dialectHas Dialect.fillsOrder <&&> takeKeywords ["WITH", "FILL"] then
    let bound (keyword : String) : Parser (List Fragment) := do
      match ← afterKeyword keyword grammar.expression with
      | some expr => return [.text (" " ++ keyword ++ " "), .expr expr]
      | none => return []
    return .text " WITH FILL" :: (← bound "FROM") ++ (← bound "TO") ++ (← bound "STEP")
  else return []

/-- Read an expression to order by. -/
def orderItem : Parser (List Fragment) := do
  let expr ← grammar.expression
  let options ← orderOptions
  let fill ← orderFill grammar
  return .expr expr :: options ++ fill

/-- Read an `ORDER BY` clause, if there is one, after some words. -/
def orderClause (before : String) : Parser (List Fragment) := do
  let order ← afterKeywords ["ORDER", "BY"] (items (orderItem grammar))
  return Fragment.optional (before ++ "ORDER BY ") (order.map Fragment.commas)

/-- Read one end of a window frame. -/
def frameBound : Parser (List Fragment) := do
  if ← takeKeywords ["CURRENT", "ROW"] then return [.text "CURRENT ROW"]
  else
    let rows : List Fragment ←
      if ← takeKeyword "UNBOUNDED" then pure [.text "UNBOUNDED"]
      else
        let count ← grammar.expression
        pure [.expr count]
    return rows ++ (← direction)
where
  /-- Read on which side of the row the end lies. -/
  direction : Parser (List Fragment) := do
    if ← takeKeyword "PRECEDING" then return [.text " PRECEDING"]
    else if ← takeKeyword "FOLLOWING" then return [.text " FOLLOWING"]
    else expected "PRECEDING or FOLLOWING"

/-- Read the frame of a window. -/
def windowFrame : Parser (List Fragment) := do
  match ← takeOneOf ["ROWS", "RANGE", "GROUPS"] with
  | none => expected "ROWS, RANGE, GROUPS"
  | some unit =>
      if ← takeKeyword "BETWEEN" then
        let start ← frameBound grammar
        expectKeyword "AND"
        let finish ← frameBound grammar
        return .text (unit ++ " BETWEEN ") :: start ++ .text " AND " :: finish
      else return .text (unit ++ " ") :: (← frameBound grammar)

/-- Read a window after its opening parenthesis, the closing one included. -/
def windowSpec : Parser (List Fragment) := do
  let keyword ← peekKeyword
  let named := match ← peek with
    | some ⟨.word _ _, _, _⟩ =>
        !(["PARTITION", "ORDER", "ROWS", "RANGE", "GROUPS"].contains keyword)
    | _ => false
  let base ← if named then (fun ident => [[.text ident.toSql]]) <$> identifier else pure []
  let partition ← afterKeywords ["PARTITION", "BY"] (items grammar.expression)
  let order ← afterKeywords ["ORDER", "BY"] (items (orderItem grammar))
  let frame ← if ← takeSign ")" then pure [] else
    let frame ← windowFrame grammar
    expectSign ")"
    pure [frame]
  let parts := base ++
    (partition.map fun exprs => .text "PARTITION BY " :: Fragment.exprs exprs).toList ++
    (order.map fun phrases => .text "ORDER BY " :: Fragment.commas phrases).toList ++ frame
  return (parts.intersperse [.text " "]).flatten

/-! ## Arguments -/

/-- Read the sign between the name of an argument and its value. -/
def argumentSign : Parser String := do
  if ← takeKeyword "VALUE" then return "VALUE"
  else
    let signs := (← read).dialect.argumentSigns
    let lexeme ← next
    match lexeme with
    | some ⟨.sign text, _, _⟩ =>
        if signs.contains text then return text
        else expectedInsteadOf "argument operator" lexeme
    | _ => expectedInsteadOf "argument operator" lexeme

/-- Read the parts of a wildcard after its first name, if a star ends them; a dotted name
that a star does not end is left for an expression to read. -/
def wildcardParts (first : Ident) : Nat → Parser (Option (List Ident))
  | 0 => return none
  | fuel + 1 => do
      if ← takeSign "." then
        let lexeme ← next
        match lexeme with
        | some ⟨.sign "*", _, _⟩ => return some [first]
        | some ⟨.word text delimiter, _, _⟩ =>
            return (← wildcardParts ⟨text, delimiter⟩ fuel).map (first :: ·)
        | some ⟨.string .single content, _, _⟩ =>
            return (← wildcardParts ⟨content, some '\''⟩ fuel).map (first :: ·)
        | _ => expectedInsteadOf "an identifier or a '*' after '.'" lexeme
      else return none

/-- A wildcard or an expression. -/
inductive Starred where
  | all
  | qualified (parts : List Ident)
  | expr (expr : Expr)

/-- Read a wildcard or an expression. -/
def starred : Parser Starred := do
  let start ← get
  match start with
  | ⟨.sign "*", _, _⟩ :: rest =>
      set rest
      return .all
  | lexeme :: rest =>
      let first :=
        match lexeme.token with
        | .word text delimiter => some (Ident.mk text delimiter)
        | .string .single content => some (Ident.mk content (some '\''))
        | _ => none
      match first with
      | some ident =>
          set rest
          match ← wildcardParts ident rest.length with
          | some parts => return .qualified parts
          | none =>
              set start
              return .expr (← grammar.expression)
      | none => return .expr (← grammar.expression)
  | [] => return .expr (← grammar.expression)

/-- An argument after its label. -/
def Starred.argument (label : List Fragment) : Starred → Argument
  | all => .wildcard (Fragment.listToSql label ++ "*")
  | qualified parts => .wildcard (Fragment.listToSql label ++ nameToSql parts ++ ".*")
  | expr value => .value label value

/-- Read an argument with a name before it. -/
def namedArgument : Parser Argument := do
  let label ←
    if ← dialectHas Dialect.argumentNamesAreExpressions then
      (fun expr => [.expr expr]) <$> grammar.expression
    else (fun ident => [.text ident.toSql]) <$> identifier
  let sign ← argumentSign
  let value ← starred grammar
  return value.argument (label ++ [.text (" " ++ sign ++ " ")])

/-- Read an argument. -/
def argument : Parser Argument := do
  match ← attempt (namedArgument grammar) with
  | some argument => return argument
  | none => return (← starred grammar).argument []

/-- Read whether missing values count. -/
def nullTreatment : Parser (Option String) := do
  match ← takeOneOf ["RESPECT", "IGNORE"] with
  | some keyword =>
      expectKeyword "NULLS"
      return some (keyword ++ " NULLS")
  | none => return none

/-- Read whether equal values count once. -/
def quantifier : Parser String := do
  let position ← place
  let all ← takeKeyword "ALL"
  let distinct ← takeKeyword "DISTINCT"
  match all, distinct with
  | true, true => refuse "Cannot specify both ALL and DISTINCT" position
  | true, false => return "ALL "
  | false, true => return "DISTINCT "
  | false, false => return ""

/-- Read what stands for the texts that are left out of a list that grows too long. -/
def overflowFiller : Parser (List Fragment) := do
  let lexeme ← peek
  match lexeme with
  | some ⟨.string quotation _, _, _⟩ =>
      if [.single, .escaped, .codePoints, .national, .hexadecimal].contains quotation then
        return [.text " ", .expr (← grammar.expression)]
      else expected "either filler, WITH, or WITHOUT in LISTAGG"
  | some ⟨_, "WITH", _⟩ | some ⟨_, "WITHOUT", _⟩ => return []
  | _ => expected "either filler, WITH, or WITHOUT in LISTAGG"

/-- Read what happens when a list of texts grows too long. -/
def overflowClause : Parser (List (List Fragment)) := do
  if ← takeKeywords ["ON", "OVERFLOW"] then
    if ← takeKeyword "ERROR" then return [[.text "ON OVERFLOW ERROR"]]
    else
      expectKeyword "TRUNCATE"
      let filler ← overflowFiller grammar
      match ← takeOneOf ["WITH", "WITHOUT"] with
      | none => expected "either WITH or WITHOUT in LISTAGG"
      | some keyword =>
          expectKeyword "COUNT"
          return [.text "ON OVERFLOW TRUNCATE" :: filler ++ [.text (" " ++ keyword ++ " COUNT")]]
  else return []

/-- Read the clauses after the last argument of a call. -/
def argumentClauses : Parser (List (List Fragment)) := do
  let treatment ←
    if ← dialectHas Dialect.nullTreatmentInArguments then nullTreatment else pure none
  let order ← orderClause grammar ""
  let limit ← afterKeyword "LIMIT" grammar.expression
  let bound ←
    if ← dialectHas Dialect.havingBoundInArguments then
      afterKeyword "HAVING" do
        let kind ← expectOneOf ["MIN", "MAX"]
        return [.text ("HAVING " ++ kind ++ " "), .expr (← grammar.expression)]
    else pure none
  let separator ←
    if ← dialectHas Dialect.separatorInArguments then afterKeyword "SEPARATOR" literalExpr
    else pure none
  let overflow ← overflowClause grammar
  return (treatment.map fun words => [.text words]).toList ++
    (if order.isEmpty then [] else [order]) ++
    (limit.map fun expr => [.text "LIMIT ", .expr expr]).toList ++ bound.toList ++
    (separator.map fun expr => [.text "SEPARATOR ", .expr expr]).toList ++ overflow

/-- The arguments of a call, and whether they say how missing values count. -/
structure ArgumentList where
  quantifier : String
  items : List Argument
  clauses : List Fragment
  treatsNulls : Bool

/-- The text of arguments in parentheses, as a phrase. -/
def ArgumentList.fragments (list : ArgumentList) : List Fragment :=
  .text ("(" ++ list.quantifier) ::
    Fragment.commas (list.items.map fun
      | .value label expr => label ++ [.expr expr]
      | .wildcard text => [.text text]) ++
    list.clauses ++ [.text ")"]

/-- Read the arguments of a call after its opening parenthesis, the closing one included. -/
def argumentList : Parser ArgumentList := do
  if ← takeSign ")" then return ⟨"", [], [], false⟩
  else
    let quantifier ← quantifier
    let arguments ← items (argument grammar)
    let clauses ← argumentClauses grammar
    expectSign ")"
    let treatsNulls := clauses.any fun clause =>
      ["RESPECT NULLS", "IGNORE NULLS"].contains (Fragment.listToSql clause)
    return ⟨quantifier, arguments, clauses.flatMap fun clause => .text " " :: clause, treatsNulls⟩

/-- Read the rows that an aggregate counts.  The keyword may also stand alone, and is then
forgotten. -/
def filterClause : Parser (List Fragment) := do
  if ← dialectHas Dialect.hasAggregateFilter <&&> takeKeyword "FILTER" <&&> takeSign "(" <&&>
      takeKeyword "WHERE" then
    let condition ← grammar.expression
    expectSign ")"
    return [.text " FILTER (WHERE ", .expr condition, .text ")"]
  else return []

/-- Read the window of a call. -/
def overClause : Parser (List Fragment) := do
  if ← takeKeyword "OVER" then
    if ← takeSign "(" then
      let spec ← windowSpec grammar
      return .text " OVER (" :: spec ++ [.text ")"]
    else return [.text (" OVER " ++ (← identifier).toSql)]
  else return []

/-- Read a call after the name of its function. -/
def call (function : List Ident) : Parser Expr := do
  expectSign "("
  let keyword ← peekKeyword
  if (← dialectHas Dialect.queryAsArgument) && (keyword == "SELECT" || keyword == "WITH") then
    let query ← grammar.query
    expectSign ")"
    return .call function [] (.query query) []
  else
    let first ← argumentList grammar
    let parametric ←
      if ← dialectHas Dialect.hasCallParameters then takeSign "(" else pure false
    let (parameters, arguments) ←
      if parametric then
        pure (first.fragments, ← argumentList grammar)
      else pure ([], first)
    let group ← afterKeywords ["WITHIN", "GROUP"] <| parenthesized do
      expectKeywords ["ORDER", "BY"]
      let order ← items (orderItem grammar)
      return .text " WITHIN GROUP (ORDER BY " :: Fragment.commas order ++ [.text ")"]
    let filter ← filterClause grammar
    let treatment ← if arguments.treatsNulls then pure none else nullTreatment
    let window ← overClause grammar
    let suffix := group.getD [] ++ filter ++
      (treatment.map fun words => Fragment.text (" " ++ words)).toList ++ window
    return .call function parameters
      (.list arguments.quantifier arguments.items arguments.clauses) suffix

end SqlScenarios.Sql.Parser
