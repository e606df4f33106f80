import SqlScenarios.Sql.Predicate

/-!
# Leaves of a condition

A condition is a tree of `AND` and `OR` over leaves.  Both connectives are treated alike:
every leaf says something that rows can be tested for.  `forLeaves` visits the leaves from
left to right and stops at the first one that is refused; what was collected before it is
kept.
-/

namespace SqlScenarios

open Sql

/-- Why no conditions can be taken from a statement. -/
inductive ShapeFault where
  | noStatement
  | severalStatements (count : Nat)
  | notQuery (keyword : String)
  | bodyNotSelect (body : String)
  | emptyList (subject : String)
  deriving DecidableEq, Repr

/-- The wording of a fault of the shape of a statement. -/
def ShapeFault.message : ShapeFault → String
  | noStatement => "no statement found"
  | severalStatements count => s!"expected a single statement, found {count}"
  | notQuery keyword => "expected a SELECT query, found: " ++ keyword
  | bodyNotSelect body => "query body is not a SELECT: " ++ body
  | emptyList subject => "IN list on " ++ subject ++ " has no values"

/-- A step that adds conditions to a list, and keeps what it added even if it fails. -/
abbrev Collector (α : Type) := ExceptT ShapeFault (StateM (List α))

namespace Collector

variable {α : Type}

/-- Add a condition at the end of the list. -/
def add (condition : α) : Collector α Unit := modify (· ++ [condition])

/-- The list after a step, and the fault of the step if it failed. -/
def collectFrom (initial : List α) (collector : Collector α Unit) :
    List α × Except ShapeFault Unit :=
  let (result, conditions) := collector.run.run initial
  (conditions, result)

/-- What a step adds to an empty list. -/
def collect (collector : Collector α Unit) : Except ShapeFault (List α) :=
  let (conditions, result) := collector.collectFrom []
  result.map fun _ => conditions

end Collector

/-- Visit the leaves of a condition from left to right. -/
def forLeaves {α : Type} (visit : Predicate → Collector α Unit) :
    Expr → Collector α Unit
  | .paren inner => forLeaves visit inner
  | .binary left .and right => do
      forLeaves visit left
      forLeaves visit right
  | .binary left .or right => do
      forLeaves visit left
      forLeaves visit right
  | leaf => visit leaf.predicate

end SqlScenarios
