import SqlScenarios.Sql.Printer

/-!
# Calls

What conditions on calls are about: the name of the function and its first argument.
-/

namespace SqlScenarios.Sql

/-- A call of a function. -/
structure Call where
  function : List Ident
  arguments : Arguments

/-- The call that an expression is, the parentheses around it aside. -/
def Expr.call? (expr : Expr) : Option Call :=
  match expr.unwrapped with
  | .call function _ arguments _ => some ⟨function, arguments⟩
  | _ => none

/-- Parentheses around a call do not matter. -/
@[simp] theorem Expr.call?_paren (inner : Expr) : (Expr.paren inner).call? = inner.call? := rfl

namespace Call

/-- The name of the function in upper case, qualifications included. -/
def functionName (call : Call) : String := Text.uppercase (nameToSql call.function)

/-- The first argument as it is printed, without its label.  A call without a list of
arguments, or with an empty one, has none. -/
def firstArgument? (call : Call) : Option String :=
  match call.arguments with
  | .list _ (.value _ expr :: _) _ => some expr.toSql
  | .list _ (.wildcard text :: _) _ => some text
  | _ => none

end Call

end SqlScenarios.Sql
