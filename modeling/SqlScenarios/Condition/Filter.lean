import SqlScenarios.Text.Blank

/-!
# Filters

A filter compares a value of each row with operands.  Each known operator takes a fixed
number of operands, or at least one; `FilterCondition.check` reports a filter that has
another number of them.
-/

namespace SqlScenarios

/-- How a filter compares. -/
inductive FilterOperator where
  | equal
  | greater
  | between
  | isIn
  | inQuery
  | other (text : String)
  deriving DecidableEq, Repr

namespace FilterOperator

/-- The text of an operator. -/
def text : FilterOperator → String
  | equal => "="
  | greater => ">"
  | between => "BETWEEN"
  | isIn => "IN"
  | inQuery => "IN_SUBQUERY"
  | other text => text

/-- The operator with the given text, in any letter case and with blanks around it. -/
def ofText (text : String) : FilterOperator :=
  let trimmed := Text.trim text
  match trimmed.map Char.toUpper with
  | "=" => equal
  | ">" => greater
  | "BETWEEN" => between
  | "IN" => isIn
  | "IN_SUBQUERY" => inQuery
  | _ => other trimmed

end FilterOperator

/-- A comparison in the filter of a query, with its operands as they are written. -/
structure FilterCondition where
  column : String
  operator : FilterOperator
  values : List String
  deriving DecidableEq, Repr

/-- How many operands an operator takes. -/
inductive OperandCount where
  | exactly (count : Nat)
  | atLeast (count : Nat)
  | any
  deriving DecidableEq, Repr

namespace OperandCount

/-- Whether a number of operands is allowed. -/
def allows : OperandCount → Nat → Bool
  | exactly count, found => found == count
  | atLeast count, found => count ≤ found
  | any, _ => true

/-- The wording of a number of operands. -/
def text : OperandCount → String
  | exactly count => s!"exactly {count}"
  | atLeast count => s!"at least {count}"
  | any => "any number of"

end OperandCount

/-- How many operands an operator takes; nothing is known of operators outside the known
ones. -/
def FilterOperator.operandCount : FilterOperator → OperandCount
  | equal => .exactly 1
  | greater => .exactly 1
  | between => .exactly 2
  | isIn => .atLeast 1
  | inQuery => .exactly 1
  | other _ => .any

/-- A filter whose number of operands its operator does not take. -/
structure MalformedCondition where
  column : String
  operator : FilterOperator
  found : Nat
  deriving DecidableEq, Repr

/-- The wording of a malformed filter. -/
def MalformedCondition.message (fault : MalformedCondition) : String :=
  "Malformed condition on '" ++ fault.column ++ "': operator " ++ fault.operator.text ++
    " expects " ++ fault.operator.operandCount.text ++ " value(s), found " ++
    toString fault.found

namespace FilterCondition

/-- Whether a filter has as many operands as its operator takes. -/
def wellFormed (filter : FilterCondition) : Bool :=
  filter.operator.operandCount.allows filter.values.length

/-- Report a filter that is not well formed. -/
def check (filter : FilterCondition) : Except MalformedCondition Unit :=
  if filter.wellFormed then .ok ()
  else .error ⟨filter.column, filter.operator, filter.values.length⟩

/-- The first operand; empty if there is none. -/
def firstValue (filter : FilterCondition) : String := filter.values.headD ""

end FilterCondition

end SqlScenarios
