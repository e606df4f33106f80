import SqlScenarios.Strategy.Category
import SqlScenarios.Strategy.OperatorTable
import SqlScenarios.Text.Blank

/-!
# Strategies

A strategy turns the conditions of a query into scenarios.  There are two, which are chosen
by name.
-/

namespace SqlScenarios

/-- A way from conditions to scenarios. -/
inductive Strategy where
  | category
  | operatorTable
  deriving DecidableEq, Repr

namespace Strategy

/-- The strategy that is used when none is named. -/
def standard : Strategy := category

/-- The name of a strategy. -/
def name : Strategy → String
  | category => "category"
  | operatorTable => "operator-table"

/-- The strategy with the given name, in any letter case and with blanks around it. -/
def ofName? (name : String) : Option Strategy :=
  match (Text.trim name).map Char.toLower with
  | "category" => some category
  | "operator-table" | "operator_table" | "legacy" => some operatorTable
  | _ => none

/-- The wording for a name that no strategy has. -/
def unknownMessage (name : String) : String := "Invalid strategy: " ++ name

/-- The scenarios for the conditions of a query. -/
def generate (strategy : Strategy) (model : QueryModel) :
    Except MalformedCondition (List Scenario) :=
  match strategy with
  | category => model.categoryScenarios
  | operatorTable => model.operatorScenarios

end Strategy

end SqlScenarios
