/-!
# Scenarios

A scenario says what to test and what to expect, of which kind the test is, and how grave a
failure would be.  A draft is a scenario without its number.
-/

namespace SqlScenarios

/-- What a scenario shows: rows that are returned, rows that are not, or an edge. -/
inductive ScenarioKind where
  | positive
  | negative
  | boundary
  deriving DecidableEq, Repr

/-- The name of a kind of scenarios. -/
def ScenarioKind.text : ScenarioKind → String
  | positive => "POSITIVE"
  | negative => "NEGATIVE"
  | boundary => "BOUNDARY"

/-- How grave a failure would be. -/
inductive Criticality where
  | low
  | medium
  | high
  | critical
  deriving DecidableEq, Repr

namespace Criticality

/-- The name of a criticality. -/
def text : Criticality → String
  | low => "LOW"
  | medium => "MEDIUM"
  | high => "HIGH"
  | critical => "CRITICAL"

/-- The place of a criticality in the order from harmless to grave. -/
def rank : Criticality → Nat
  | low => 0
  | medium => 1
  | high => 2
  | critical => 3

instance : LE Criticality := ⟨fun left right => left.rank ≤ right.rank⟩

instance : DecidableLE Criticality := fun left right =>
  inferInstanceAs (Decidable (left.rank ≤ right.rank))

instance : Min Criticality := minOfLe

instance : Max Criticality := maxOfLe

/-- Criticalities from harmless to grave. -/
def sorted (values : List Criticality) : List Criticality :=
  values.mergeSort fun left right => decide (left ≤ right)

end Criticality

/-- What a test by operator does with the tested column. -/
inductive TestIntent where
  | isMatch
  | notMatch
  | equal
  | less
  | nullCheck
  deriving DecidableEq, Repr

/-- The name of an intent. -/
def TestIntent.text : TestIntent → String
  | isMatch => "MATCH"
  | notMatch => "NOT_MATCH"
  | equal => "EQUAL"
  | less => "LESS"
  | nullCheck => "NULL_CHECK"

/-- A scenario. -/
structure Scenario where
  id : String
  description : String
  expectedResult : String
  kind : ScenarioKind
  criticality : Criticality
  deriving DecidableEq, Repr

/-- A scenario that has no number yet. -/
structure Draft where
  description : String
  expectedResult : String
  kind : ScenarioKind
  criticality : Criticality
  deriving DecidableEq, Repr

/-- A draft with a number. -/
def Draft.withId (draft : Draft) (id : String) : Scenario :=
  ⟨id, draft.description, draft.expectedResult, draft.kind, draft.criticality⟩

end SqlScenarios
