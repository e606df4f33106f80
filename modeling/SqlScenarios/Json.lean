/-!
# JSON values

The members of an object keep the order in which they are written.  A number that is written
as an integer, and that fits into 64 bits with or without a sign, is an integer; every other
number is a decimal.
-/

namespace SqlScenarios

/-- A decimal number: digits with a power of ten and a sign. -/
structure Decimal where
  negative : Bool
  digits : Nat
  exponent : Int
  deriving DecidableEq, Repr

/-- A JSON value. -/
inductive Json where
  | null
  | boolean (value : Bool)
  | integer (value : Int)
  | decimal (value : Decimal)
  | string (text : String)
  | array (items : List Json)
  | object (members : List (String × Json))
  deriving Repr

namespace Json

instance : Inhabited Json := ⟨null⟩

/-- The value of the last member with a name. -/
def lookup? (members : List (String × Json)) (name : String) : Option Json :=
  members.reverse.lookup name

end Json

end SqlScenarios
