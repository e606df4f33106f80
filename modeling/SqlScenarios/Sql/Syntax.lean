import SqlScenarios.Sql.Token

/-!
# Syntax trees

The tree of a statement keeps apart what scenarios are made of: comparisons, ranges,
memberships, calls, the blocks of a query and the tables they read.  Every other form is
kept as a phrase, that is, as its words together with the expressions and queries between
them, in the order in which they are written.  A phrase can be printed and searched for
queries, and nothing else is ever asked of it.
-/

namespace SqlScenarios.Sql

/-! ## Leaves -/

/-- An identifier with the mark that delimits it, if any. -/
structure Ident where
  text : String
  delimiter : Option Char
  deriving DecidableEq, Repr

/-- A literal value. -/
inductive Literal where
  | number (digits : String) (long : Bool)
  | string (quotation : Quotation) (content : String)
  | boolean (value : Bool)
  | null
  | placeholder (text : String)
  deriving DecidableEq, Repr

/-- An operator before its operand. -/
inductive UnaryOp where
  | minus
  | plus
  | not
  | other (symbol : String)
  deriving DecidableEq, Repr

/-- An operator between its operands. -/
inductive BinaryOp where
  | equal
  | greater
  | and
  | or
  | other (symbol : String)
  deriving DecidableEq, Repr

/-- How two sets of rows are joined. -/
inductive JoinKind where
  | join
  | inner
  | left
  | leftOuter
  | right
  | rightOuter
  | full
  | cross
  | semi
  | leftSemi
  | rightSemi
  | anti
  | leftAnti
  | rightAnti
  | straight
  | crossApply
  | outerApply
  | asOf
  deriving DecidableEq, Repr

/-- The order in which a block writes its list of values and its tables. -/
inductive BlockForm where
  | selectFirst
  | fromFirst
  | fromOnly
  deriving DecidableEq, Repr

/-- The name given to a table, with the columns it renames. -/
structure TableAlias where
  name : Ident
  columns : List String
  deriving DecidableEq, Repr

/-! ## Trees -/

mutual

/-- An expression. -/
inductive Expr where
  | name (parts : List Ident)
  | literal (value : Literal)
  | paren (inner : Expr)
  | unary (op : UnaryOp) (operand : Expr)
  | binary (left : Expr) (op : BinaryOp) (right : Expr)
  | between (subject : Expr) (negated : Bool) (low high : Expr)
  | inList (subject : Expr) (negated : Bool) (items : List Expr)
  | inQuery (subject : Expr) (negated : Bool) (query : Query)
  | call (function : List Ident) (parameters : List Fragment) (arguments : Arguments)
      (suffix : List Fragment)
  | phrase (fragments : List Fragment)

/-- What a call is applied to: nothing at all, a query, or a list. -/
inductive Arguments where
  | absent
  | query (query : Query)
  | list (quantifier : String) (items : List Argument) (clauses : List Fragment)

/-- One argument of a call: an expression, perhaps after a label, or a wildcard. -/
inductive Argument where
  | value (label : List Fragment) (expr : Expr)
  | wildcard (text : String)

/-- A piece of a phrase. -/
inductive Fragment where
  | text (text : String)
  | expr (expr : Expr)
  | query (query : Query)
  | source (source : Source)

/-- A query: common tables, a body, and clauses on the rows of the body. -/
structure Query where
  recursive : Bool
  commonTables : List CommonTable
  body : Body
  tail : List Fragment

/-- A common table, with what is written before and after its query. -/
structure CommonTable where
  head : String
  query : Query
  tail : String

/-- The body of a query. -/
inductive Body where
  | block (block : Block)
  | paren (query : Query)
  | setOperation (left : Body) (operation : String) (right : Body)
  | other (fragments : List Fragment)

/-- A `SELECT` block. -/
structure Block where
  form : BlockForm
  head : List Fragment
  projection : List Item
  target : List Fragment
  sources : List Source
  preFilter : List Fragment
  filter : Option Expr
  grouping : List Fragment
  having : Option Expr
  tail : List Fragment

/-- An item of the list of a block: a value, perhaps named, or any other form. -/
inductive Item where
  | value (expr : Expr) (label : Option Ident)
  | other (fragments : List Fragment)

/-- A table of a block with the tables joined to it. -/
structure Source where
  relation : Relation
  joins : List Join

/-- A join; `matching` is the condition of a join on nearest rows. -/
structure Join where
  spread : Bool
  kind : JoinKind
  relation : Relation
  matching : List Fragment
  constraint : JoinConstraint

/-- What joined rows have in common. -/
inductive JoinConstraint where
  | on (condition : Expr)
  | using (columns : String)
  | natural
  | unconstrained

/-- A table: a query, joined tables in parentheses, or any other form. -/
inductive Relation where
  | derived (lateral : Bool) (query : Query) (label : Option TableAlias)
  | nested (source : Source) (label : Option TableAlias)
  | other (body : List Fragment) (label : Option TableAlias) (rest : List Fragment)

end

/-- A statement: a query, or a command that this library only names. -/
inductive Statement where
  | query (query : Query)
  | command (fragments : List Fragment)

instance : Inhabited Expr := ⟨.literal .null⟩

namespace Expr

/-- An expression without the parentheses around it. -/
def unwrapped : Expr → Expr
  | paren inner => inner.unwrapped
  | expr => expr

/-- Removing parentheses leaves none around the expression. -/
theorem unwrapped_ne_paren (expr inner : Expr) : expr.unwrapped ≠ paren inner := by
  match expr with
  | paren nested => simpa [unwrapped] using unwrapped_ne_paren nested inner
  | name _ | literal _ | unary _ _ | binary _ _ _ | between _ _ _ _ | inList _ _ _
  | inQuery _ _ _ | call _ _ _ _ | phrase _ => simp [unwrapped]

end Expr

end SqlScenarios.Sql
