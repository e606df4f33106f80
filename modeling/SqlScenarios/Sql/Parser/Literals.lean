import SqlScenarios.Sql.Parser.Grammar

/-!
# Literals

Numbers, strings, placeholders and the words for truth, falsehood and the missing value.
-/

namespace SqlScenarios.Sql.Parser

/-- Read a placeholder after the sign that starts it; a number can name one too. -/
def placeholderAfter (sign : String) : Parser Literal := do
  let lexeme ← next
  match lexeme with
  | some ⟨.word text _, _, _⟩ => return .placeholder (sign ++ text)
  | some ⟨.number digits false, _, _⟩ => return .placeholder (sign ++ digits)
  | _ => expectedInsteadOf "placeholder" lexeme

/-- Read a literal.  A delimited word is a string here. -/
def literal : Parser Literal := do
  let lexeme ← next
  match lexeme with
  | some ⟨.word _ none, keyword, _⟩ =>
      if keyword == "NULL" then return .null
      else if keyword == "TRUE" && (← dialectHas Dialect.hasBooleanLiterals) then
        return .boolean true
      else if keyword == "FALSE" && (← dialectHas Dialect.hasBooleanLiterals) then
        return .boolean false
      else expectedInsteadOf "a concrete value" lexeme
  | some ⟨.word text (some '"'), _, _⟩ => return .string .double text
  | some ⟨.word _ (some _), _, _⟩ => expectedInsteadOf "A value?" lexeme
  | some ⟨.number digits long, _, _⟩ => return .number digits long
  | some ⟨.string quotation content, _, _⟩ => return .string quotation content
  | some ⟨.placeholder text, _, _⟩ => return .placeholder text
  | some ⟨.sign ":", _, _⟩ => placeholderAfter ":"
  | some ⟨.sign "@", _, _⟩ => placeholderAfter "@"
  | _ => expectedInsteadOf "a value" lexeme

/-- Read a literal as an expression. -/
def literalExpr : Parser Expr := .literal <$> literal

end SqlScenarios.Sql.Parser
