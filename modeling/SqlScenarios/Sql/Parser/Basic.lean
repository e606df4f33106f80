import SqlScenarios.Sql.Syntax
import SqlScenarios.Sql.Token.Lexer

/-!
# Parsers

A parser reads a tree from the front of a list of lexemes in a given context and leaves the
rest.  A parser that fails leaves nothing behind, so that trying another one starts where
the first one did.  The context limits how deeply expressions, queries and statements may
nest; running out of that depth is the one fault that `attempt` does not absorb.
-/

namespace SqlScenarios.Sql

/-- Why a text is not a statement. -/
inductive ParseFault where
  | lexical (error : LexicalError)
  | expected (wanted : String) (found : Option Lexeme)
  | refused (message : String) (position : Option Position)
  | tooDeep

namespace ParseFault

/-- The suffix that names a place; the end of the text has none. -/
def positionSuffix : Option Position → String
  | none => ""
  | some position => position.suffix

/-- The wording of a parse fault. -/
def message : ParseFault → String
  | lexical error => error.fault.message ++ error.position.suffix
  | expected wanted found =>
      "Expected: " ++ wanted ++ ", found: " ++
        (match found with
          | none => "EOF"
          | some lexeme => lexeme.token.spelling ++ lexeme.position.suffix)
  | refused text position => text ++ positionSuffix position
  | tooDeep => "recursion limit exceeded"

end ParseFault

/-- What parsing depends on besides the text: the dialect, the depth that is left, and
whether a hierarchical condition is being read. -/
structure ParseContext where
  dialect : Dialect
  depth : Nat
  hierarchical : Bool

/-- The depth to which expressions, queries and statements may nest. -/
def maximalDepth : Nat := 50

/-- A reader of trees. -/
abbrev Parser := ReaderT ParseContext (StateT (List Lexeme) (Except ParseFault))

namespace Parser

variable {α β : Type}

/-! ## Looking ahead -/

/-- Whether the dialect has a property. -/
def dialectHas (property : Dialect → Bool) : Parser Bool := return property (← read).dialect

/-- The next lexeme, which stays. -/
def peek : Parser (Option Lexeme) := return (← get).head?

/-- The lexeme after the next `count` ones, which all stay. -/
def peekAt (count : Nat) : Parser (Option Lexeme) := return (← get)[count]?

/-- The next keyword; empty if no plain word comes next. -/
def peekKeyword : Parser String := return ((← peek).map Lexeme.keyword).getD ""

/-- The keyword after the next `count` lexemes. -/
def peekKeywordAt (count : Nat) : Parser String :=
  return ((← peekAt count).map Lexeme.keyword).getD ""

/-- Whether the given keyword comes next. -/
def comesKeyword (keyword : String) : Parser Bool := return (← peekKeyword) == keyword

/-- Whether a lexeme is the given sign. -/
def isSign (text : String) : Option Lexeme → Bool
  | some lexeme => lexeme.token == .sign text
  | none => false

/-- Whether the given sign comes next. -/
def comesSign (text : String) : Parser Bool := return isSign text (← peek)

/-- The place of the next lexeme. -/
def place : Parser (Option Position) := return (← peek).map Lexeme.position

/-! ## Failing -/

/-- Fail because something else than the given lexeme was wanted. -/
def expectedInsteadOf (wanted : String) (found : Option Lexeme) : Parser α :=
  throw (.expected wanted found)

/-- Fail because something else than the next lexeme was wanted. -/
def expected (wanted : String) : Parser α := do expectedInsteadOf wanted (← peek)

/-- Fail with a message and a place. -/
def refuse (message : String) (position : Option Position) : Parser α :=
  throw (.refused message position)

/-- The result of a parser if it succeeds; otherwise nothing is read. -/
def attempt (parser : Parser α) : Parser (Option α) :=
  tryCatch (some <$> parser) fun
    | .tooDeep => throw .tooDeep
    | _ => return none

/-- Run a parser one level deeper. -/
def deeper (parser : Parser α) : Parser α := fun context =>
  match context.depth with
  | 0 => throw .tooDeep
  | depth + 1 => parser { context with depth }

/-! ## Taking lexemes -/

/-- Take the next lexeme, if any. -/
def next : Parser (Option Lexeme) := do
  match ← get with
  | [] => return none
  | lexeme :: rest =>
      set rest
      return some lexeme

/-- Take the next lexeme, whatever it is. -/
def skip : Parser Unit := do discard next

/-- Take the given keyword if it comes next. -/
def takeKeyword (keyword : String) : Parser Bool := do
  if ← comesKeyword keyword then
    skip
    return true
  else return false

/-- Take the given keywords if they all come next. -/
def takeKeywords (keywords : List String) : Parser Bool := do
  let lexemes ← get
  if (lexemes.take keywords.length).map Lexeme.keyword == keywords then
    set (lexemes.drop keywords.length)
    return true
  else return false

/-- Take one of the given keywords if it comes next. -/
def takeOneOf (keywords : List String) : Parser (Option String) := do
  let keyword ← peekKeyword
  if keyword != "" && keywords.contains keyword then
    skip
    return some keyword
  else return none

/-- Take the given sign if it comes next. -/
def takeSign (text : String) : Parser Bool := do
  if ← comesSign text then
    skip
    return true
  else return false

/-- Take the given keyword, which has to come next. -/
def expectKeyword (keyword : String) : Parser Unit := do
  unless ← takeKeyword keyword do expected keyword

/-- Take the given keywords, which have to come next. -/
def expectKeywords (keywords : List String) : Parser Unit := keywords.forM expectKeyword

/-- Take one of the given keywords, of which one has to come next. -/
def expectOneOf (keywords : List String) : Parser String := do
  match ← takeOneOf keywords with
  | some keyword => return keyword
  | none => expected ("one of " ++ String.intercalate " or " keywords)

/-- Take the given sign, which has to come next. -/
def expectSign (text : String) : Parser Unit := do
  unless ← takeSign text do expected text

/-- Read something between parentheses. -/
def parenthesized (parser : Parser α) : Parser α := do
  expectSign "("
  let result ← parser
  expectSign ")"
  return result

/-- Read something after a keyword, if the keyword comes next. -/
def afterKeyword (keyword : String) (parser : Parser α) : Parser (Option α) := do
  if ← takeKeyword keyword then some <$> parser else return none

/-- Read something after keywords, if the keywords come next. -/
def afterKeywords (keywords : List String) (parser : Parser α) : Parser (Option α) := do
  if ← takeKeywords keywords then some <$> parser else return none

/-! ## Lists -/

/-- Words that end a list of values, so that they name no value either. -/
def reservedAfterValue : List String :=
  ["WITH", "EXPLAIN", "ANALYZE", "SELECT", "WHERE", "GROUP", "SORT", "HAVING", "ORDER", "TOP",
    "LATERAL", "VIEW", "LIMIT", "OFFSET", "FETCH", "UNION", "EXCEPT", "EXCLUDE", "INTERSECT",
    "MINUS", "CLUSTER", "DISTRIBUTE", "RETURNING", "VALUES", "FROM", "INTO", "END"]

/-- Whether the next lexeme ends a list after a comma that nothing follows. -/
def endsTrailingList : Parser Bool := do
  match ← peek with
  | none => return true
  | some lexeme =>
      match lexeme.token with
      | .sign text => return [")", ";", "]", "\x7d"].contains text
      | _ => return reservedAfterValue.contains lexeme.keyword

/-- Read items with commas between them, at most `fuel` of them after the first. -/
def itemsFrom (trailing : Bool) (item : Parser α) : Nat → Parser (List α)
  | 0 => return []
  | fuel + 1 => do
      if ← takeSign "," then
        if trailing && (← endsTrailingList) then return []
        else return (← item) :: (← itemsFrom trailing item fuel)
      else return []

/-- Read one or more items with commas between them.  Every item after the first follows a
comma, so there are no more of them than lexemes. -/
def itemsWith (trailing : Bool) (item : Parser α) : Parser (List α) := do
  let first ← item
  let fuel := (← get).length
  return first :: (← itemsFrom trailing item fuel)

/-- Read one or more items with commas between them. -/
def items (item : Parser α) : Parser (List α) := do
  itemsWith (← dialectHas Dialect.allowsTrailingCommas) item

/-- Read items with commas between them, unless the closing sign comes at once. -/
def itemsBefore (closing : String) (item : Parser α) : Parser (List α) := do
  if ← comesSign closing then return []
  else if (← comesSign ",") && isSign closing (← peekAt 1) &&
      (← dialectHas Dialect.allowsTrailingCommas) then
    skip
    return []
  else items item

/-- Read as long as a step gives a result, at most `fuel` times. -/
def manyFrom (step : Parser (Option α)) : Nat → Parser (List α)
  | 0 => return []
  | fuel + 1 => do
      match ← step with
      | some result => return result :: (← manyFrom step fuel)
      | none => return []

/-- Read as long as a step, which takes a lexeme whenever it gives a result, does so. -/
def many (step : Parser (Option α)) : Parser (List α) := do
  manyFrom step (← get).length

/-- Apply a step to a value as long as it gives another one, at most `fuel` times. -/
def iterateFrom (step : α → Parser (Option α)) : Nat → α → Parser α
  | 0, value => return value
  | fuel + 1, value => do
      match ← step value with
      | some result => iterateFrom step fuel result
      | none => return value

/-- Apply a step, which takes a lexeme whenever it gives a value, as long as it does so. -/
def iterate (step : α → Parser (Option α)) (value : α) : Parser α := do
  iterateFrom step (← get).length value

end Parser

/-! ## Phrases -/

namespace Fragment

/-- Phrases with commas between them. -/
def commas : List (List Fragment) → List Fragment
  | [] => []
  | [phrase] => phrase
  | phrase :: rest => phrase ++ .text ", " :: commas rest

/-- Expressions with commas between them. -/
def exprs (exprs : List Expr) : List Fragment := commas (exprs.map fun expr => [.expr expr])

/-- A phrase after some words, if there is one. -/
def optional (words : String) : Option (List Fragment) → List Fragment
  | none => []
  | some phrase => .text words :: phrase

/-- Words, if they were read. -/
def words (condition : Bool) (text : String) : List Fragment :=
  if condition then [.text text] else []

end Fragment

end SqlScenarios.Sql
