import SqlScenarios.Sql.Dialect

/-!
# Precedences

Operators fall into groups whose members bind equally tightly.  A dialect gives every group
a level, and an operand of an operator ends before the next operator whose level is not
higher.  Most dialects share one table of levels; PostgreSQL has a table of its own, in which
comparisons bind looser than ranges and patterns, and operators that are not part of the
standard bind tighter than both.
-/

namespace SqlScenarios.Sql

/-- A group of operators that bind equally tightly. -/
inductive Precedence where
  | or
  | and
  | not
  | extension
  | is
  | like
  | comparison
  | range
  | pipe
  | caret
  | ampersand
  | xor
  | additive
  | multiplicative
  | timeZone
  | cast
  | bracket
  | period
  deriving DecidableEq, Repr

namespace Precedence

/-- The levels that most dialects share. -/
def commonLevel : Precedence → Nat
  | or => 5
  | and => 10
  | not => 15
  | extension => 16
  | is => 17
  | like => 19
  | comparison => 20
  | range => 20
  | pipe => 21
  | caret => 22
  | ampersand => 23
  | xor => 24
  | additive => 30
  | multiplicative => 40
  | timeZone => 41
  | cast => 50
  | bracket => 50
  | period => 100

/-- The levels of PostgreSQL. -/
def postgreSqlLevel : Precedence → Nat
  | or => 10
  | and => 20
  | not => 30
  | is => 40
  | comparison => 50
  | like => 60
  | range => 60
  | extension => 70
  | pipe => 70
  | ampersand => 70
  | xor => 75
  | additive => 80
  | multiplicative => 90
  | caret => 100
  | timeZone => 110
  | bracket => 130
  | cast => 140
  | period => 200

end Precedence

/-- How tightly the operators of a group bind in a dialect. -/
def Dialect.level (dialect : Dialect) (group : Precedence) : Nat :=
  if dialect.hasOwnPrecedences then group.postgreSqlLevel else group.commonLevel

end SqlScenarios.Sql
