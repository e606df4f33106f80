import SqlScenarios.Sql.Printer

/-!
# Predicates

A condition is classified by its outermost operator, the parentheses around it aside.
Negated ranges and memberships and all other operators are one class, so that each
expression is in exactly one.
-/

namespace SqlScenarios.Sql

/-- What a condition asks, as far as scenarios can be made for it. -/
inductive Predicate where
  | equality (left right : Expr)
  | greaterThan (left right : Expr)
  | between (subject low high : Expr)
  | inList (subject : Expr) (items : List Expr)
  | inQuery (subject : Expr) (query : Query)
  | conjunction (left right : Expr)
  | disjunction (left right : Expr)
  | other (expr : Expr)

/-- The class of a condition. -/
def Expr.predicate (expr : Expr) : Predicate :=
  match expr.unwrapped with
  | .binary left .equal right => .equality left right
  | .binary left .greater right => .greaterThan left right
  | .binary left .and right => .conjunction left right
  | .binary left .or right => .disjunction left right
  | .between subject false low high => .between subject low high
  | .inList subject false items => .inList subject items
  | .inQuery subject false query => .inQuery subject query
  | other => .other other

/-- Parentheses around a condition do not change its class. -/
@[simp] theorem Expr.predicate_paren (inner : Expr) :
    (Expr.paren inner).predicate = inner.predicate := rfl

namespace Predicate

/-- The name of a class of conditions. -/
def kind : Predicate → String
  | equality _ _ => "equality"
  | greaterThan _ _ => "greater-than"
  | between _ _ _ => "between"
  | inList _ _ => "in-list"
  | inQuery _ _ => "in-subquery"
  | conjunction _ _ => "conjunction"
  | disjunction _ _ => "disjunction"
  | other _ => "other"

/-- The operands of a condition as they are printed. -/
def operands : Predicate → List String
  | equality left right => [left.toSql, right.toSql]
  | greaterThan left right => [left.toSql, right.toSql]
  | between subject low high => [subject.toSql, low.toSql, high.toSql]
  | inList subject items => subject.toSql :: items.map Expr.toSql
  | inQuery subject query => [subject.toSql, query.toSql]
  | conjunction left right => [left.toSql, right.toSql]
  | disjunction left right => [left.toSql, right.toSql]
  | other expr => [expr.toSql]

end Predicate

/-! ## Literals -/

/-- Whether an expression is a literal, the parentheses around it aside. -/
def Expr.isValue (expr : Expr) : Bool :=
  match expr.unwrapped with
  | .literal _ => true
  | _ => false

/-- Whether an expression is a literal or a literal with a sign. -/
def Expr.isLiteral (expr : Expr) : Bool :=
  match expr.unwrapped with
  | .literal _ => true
  | .unary .minus operand => operand.isValue
  | .unary .plus operand => operand.isValue
  | _ => false

end SqlScenarios.Sql
