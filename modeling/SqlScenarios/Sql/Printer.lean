import SqlScenarios.Sql.Syntax

/-!
# Printing syntax trees

`toSql` prints a tree with one blank between words, a comma and a blank between the items of
a list, keywords in upper case and names as they are written.  Parentheses are printed
exactly where the tree has them.
-/

namespace SqlScenarios.Sql

/-! ## Leaves -/

/-- Double the marks in a quoted text.  A mark that follows a backslash, or that already
stands twice, is taken to be escaped and stays as it is. -/
def doubleMarks (mark previous : Char) : List Char → List Char
  | [] => []
  | [c] =>
      if c = mark then
        if previous = '\\' then [c] else [c, c]
      else [c]
  | c :: d :: rest =>
      if c = mark then
        if previous = '\\' then c :: doubleMarks mark previous (d :: rest)
        else if d = mark then c :: d :: doubleMarks mark c rest
        else c :: c :: doubleMarks mark c (d :: rest)
      else c :: doubleMarks mark c (d :: rest)

/-- A text between marks. -/
def betweenMarks (mark : Char) (text : String) : String :=
  String.ofList (mark :: doubleMarks mark '\x00' text.toList ++ [mark])

namespace Ident

/-- The spelling of an identifier. -/
def toSql (ident : Ident) : String :=
  match ident.delimiter with
  | none => ident.text
  | some '[' => "[" ++ ident.text ++ "]"
  | some mark => betweenMarks mark ident.text

end Ident

/-- The spelling of a name with its qualifications. -/
def nameToSql (parts : List Ident) : String :=
  String.intercalate "." (parts.map Ident.toSql)

/-- The hexadecimal digits of a number in upper case, at least `width` of them. -/
def hexDigits (width number : Nat) : List Char :=
  let digits := (Nat.toDigits 16 number).map Char.toUpper
  List.replicate (width - digits.length) '0' ++ digits

/-- A character inside a string with escapes. -/
def escapedChar : Char → List Char
  | '\'' => ['\\', '\'']
  | '\\' => ['\\', '\\']
  | '\n' => ['\\', 'n']
  | '\t' => ['\\', 't']
  | '\r' => ['\\', 'r']
  | c => [c]

/-- A character inside a string of code points. -/
def codePointChar (c : Char) : List Char :=
  if c = '\'' then ['\'', '\'']
  else if c = '\\' then ['\\', '\\']
  else if c.toNat < 128 then [c]
  else if c.toNat ≤ 0xFFFF then '\\' :: hexDigits 4 c.toNat
  else '\\' :: '+' :: hexDigits 6 c.toNat

namespace Literal

/-- The spelling of a literal. -/
def toSql : Literal → String
  | number digits long => if long then digits ++ "L" else digits
  | string .single content => betweenMarks '\'' content
  | string .double content => betweenMarks '"' content
  | string .escaped content =>
      "E'" ++ String.ofList (content.toList.flatMap escapedChar) ++ "'"
  | string .codePoints content =>
      "U&'" ++ String.ofList (content.toList.flatMap codePointChar) ++ "'"
  | string quotation content => quotation.marks.1 ++ content ++ quotation.marks.2
  | boolean true => "true"
  | boolean false => "false"
  | null => "NULL"
  | placeholder text => text

end Literal

/-- The spelling of a unary operator, with the blank before its operand if it is a word. -/
def UnaryOp.toSql : UnaryOp → String
  | minus => "-"
  | plus => "+"
  | not => "NOT "
  | other symbol => symbol

/-- The spelling of a binary operator. -/
def BinaryOp.toSql : BinaryOp → String
  | equal => "="
  | greater => ">"
  | and => "AND"
  | or => "OR"
  | other symbol => symbol

/-- The words of a join. -/
def JoinKind.toSql : JoinKind → String
  | join => "JOIN"
  | inner => "INNER JOIN"
  | left => "LEFT JOIN"
  | leftOuter => "LEFT OUTER JOIN"
  | right => "RIGHT JOIN"
  | rightOuter => "RIGHT OUTER JOIN"
  | full => "FULL JOIN"
  | cross => "CROSS JOIN"
  | semi => "SEMI JOIN"
  | leftSemi => "LEFT SEMI JOIN"
  | rightSemi => "RIGHT SEMI JOIN"
  | anti => "ANTI JOIN"
  | leftAnti => "LEFT ANTI JOIN"
  | rightAnti => "RIGHT ANTI JOIN"
  | straight => "STRAIGHT_JOIN"
  | crossApply => "CROSS APPLY"
  | outerApply => "OUTER APPLY"
  | asOf => "ASOF JOIN"

/-- The name given to a table, as it follows the table. -/
def aliasToSql : Option TableAlias → String
  | none => ""
  | some label =>
      " AS " ++ label.name.toSql ++
        (if label.columns.isEmpty then ""
          else " (" ++ String.intercalate ", " label.columns ++ ")")

/-- The word that negates a comparison, if it is negated. -/
def negation (negated : Bool) : String := if negated then "NOT " else ""

/-! ## Trees -/

mutual

/-- The text of an expression. -/
def Expr.toSql : Expr → String
  | .name parts => nameToSql parts
  | .literal value => value.toSql
  | .paren inner => "(" ++ inner.toSql ++ ")"
  | .unary op operand => op.toSql ++ operand.toSql
  | .binary left op right => left.toSql ++ " " ++ op.toSql ++ " " ++ right.toSql
  | .between subject negated low high =>
      subject.toSql ++ " " ++ negation negated ++ "BETWEEN " ++ low.toSql ++ " AND " ++
        high.toSql
  | .inList subject negated items =>
      subject.toSql ++ " " ++ negation negated ++ "IN (" ++ Expr.listToSql items ++ ")"
  | .inQuery subject negated query =>
      subject.toSql ++ " " ++ negation negated ++ "IN (" ++ query.toSql ++ ")"
  | .call function parameters arguments suffix =>
      nameToSql function ++ Fragment.listToSql parameters ++ arguments.toSql ++
        Fragment.listToSql suffix
  | .phrase fragments => Fragment.listToSql fragments

/-- The texts of expressions with commas between them. -/
def Expr.listToSql : List Expr → String
  | [] => ""
  | [expr] => expr.toSql
  | expr :: rest => expr.toSql ++ ", " ++ Expr.listToSql rest

/-- The text of what a call is applied to. -/
def Arguments.toSql : Arguments → String
  | .absent => ""
  | .query query => "(" ++ query.toSql ++ ")"
  | .list quantifier items clauses =>
      "(" ++ quantifier ++ Argument.listToSql items ++ Fragment.listToSql clauses ++ ")"

/-- The text of an argument. -/
def Argument.toSql : Argument → String
  | .value label expr => Fragment.listToSql label ++ expr.toSql
  | .wildcard text => text

/-- The texts of arguments with commas between them. -/
def Argument.listToSql : List Argument → String
  | [] => ""
  | [argument] => argument.toSql
  | argument :: rest => argument.toSql ++ ", " ++ Argument.listToSql rest

/-- The text of a piece of a phrase. -/
def Fragment.toSql : Fragment → String
  | .text text => text
  | .expr expr => expr.toSql
  | .query query => query.toSql
  | .source source => source.toSql

/-- The text of a phrase. -/
def Fragment.listToSql : List Fragment → String
  | [] => ""
  | fragment :: rest => fragment.toSql ++ Fragment.listToSql rest

/-- The text of a query. -/
def Query.toSql : Query → String
  | ⟨recursive, commonTables, body, tail⟩ =>
      (match commonTables with
        | [] => ""
        | _ => if recursive then "WITH RECURSIVE " else "WITH ") ++
        CommonTable.listToSql commonTables ++ body.toSql ++ Fragment.listToSql tail

/-- The texts of common tables, with commas between them and a blank after the last. -/
def CommonTable.listToSql : List CommonTable → String
  | [] => ""
  | [⟨head, query, tail⟩] => head ++ "(" ++ query.toSql ++ ")" ++ tail ++ " "
  | ⟨head, query, tail⟩ :: rest =>
      head ++ "(" ++ query.toSql ++ ")" ++ tail ++ ", " ++ CommonTable.listToSql rest

/-- The text of the body of a query. -/
def Body.toSql : Body → String
  | .block block => block.toSql
  | .paren query => "(" ++ query.toSql ++ ")"
  | .setOperation left operation right =>
      left.toSql ++ " " ++ operation ++ " " ++ right.toSql
  | .other fragments => Fragment.listToSql fragments

/-- The text of a block. -/
def Block.toSql : Block → String
  | ⟨form, head, projection, target, sources, preFilter, filter, grouping, having, tail⟩ =>
      (match form with
        | .selectFirst => "SELECT"
        | .fromFirst => "FROM " ++ Source.listToSql sources ++ " SELECT"
        | .fromOnly => "FROM " ++ Source.listToSql sources) ++
        Fragment.listToSql head ++
        (match projection with
          | [] => ""
          | _ => " ") ++
        Item.listToSql projection ++ Fragment.listToSql target ++
        (match form, sources with
          | .selectFirst, _ :: _ => " FROM " ++ Source.listToSql sources
          | _, _ => "") ++
        Fragment.listToSql preFilter ++ Expr.clauseToSql " WHERE " filter ++
        Fragment.listToSql grouping ++ Expr.clauseToSql " HAVING " having ++
        Fragment.listToSql tail

/-- The text of an optional clause that holds an expression. -/
def Expr.clauseToSql (keyword : String) : Option Expr → String
  | none => ""
  | some expr => keyword ++ expr.toSql

/-- The text of an item of a block. -/
def Item.toSql : Item → String
  | .value expr none => expr.toSql
  | .value expr (some label) => expr.toSql ++ " AS " ++ label.toSql
  | .other fragments => Fragment.listToSql fragments

/-- The texts of items with commas between them. -/
def Item.listToSql : List Item → String
  | [] => ""
  | [item] => item.toSql
  | item :: rest => item.toSql ++ ", " ++ Item.listToSql rest

/-- The text of a table with its joins. -/
def Source.toSql : Source → String
  | ⟨relation, joins⟩ => relation.toSql ++ Join.listToSql joins

/-- The texts of tables with commas between them. -/
def Source.listToSql : List Source → String
  | [] => ""
  | [source] => source.toSql
  | source :: rest => source.toSql ++ ", " ++ Source.listToSql rest

/-- The texts of joins, each after a blank. -/
def Join.listToSql : List Join → String
  | [] => ""
  | ⟨spread, kind, relation, matching, constraint⟩ :: rest =>
      (if spread then " GLOBAL " else " ") ++ constraint.leadToSql ++ kind.toSql ++ " " ++
        relation.toSql ++ Fragment.listToSql matching ++ constraint.toSql ++
        Join.listToSql rest

/-- The word before a join that its constraint asks for. -/
def JoinConstraint.leadToSql : JoinConstraint → String
  | .natural => "NATURAL "
  | _ => ""

/-- The text of the constraint after a join. -/
def JoinConstraint.toSql : JoinConstraint → String
  | .on condition => " ON " ++ condition.toSql
  | .using columns => " USING(" ++ columns ++ ")"
  | .natural => ""
  | .unconstrained => ""

/-- The text of a table. -/
def Relation.toSql : Relation → String
  | .derived lateral query label =>
      (if lateral then "LATERAL (" else "(") ++ query.toSql ++ ")" ++ aliasToSql label
  | .nested source label => "(" ++ source.toSql ++ ")" ++ aliasToSql label
  | .other body label rest =>
      Fragment.listToSql body ++ aliasToSql label ++ Fragment.listToSql rest

end

/-- The text of a statement. -/
def Statement.toSql : Statement → String
  | .query root => root.toSql
  | .command fragments => Fragment.listToSql fragments

end SqlScenarios.Sql
