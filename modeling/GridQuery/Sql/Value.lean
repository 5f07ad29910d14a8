import GridQuery.Calendar.Time
import GridQuery.Number.Double

/-!
# Values of statements

The values that travel beside a statement's text.
-/

namespace GridQuery

inductive Value where
  | text (s : String)
  | int (n : Int)
  | float (x : Double)
  | bool (b : Bool)
  | date (d : Date)
  | dateTime (t : DateTime)
deriving DecidableEq

namespace Value

/-- A count as an integer of sixty-four bits with a sign; greater ones become the greatest. -/
def ofNat (n : Nat) : Value := .int (min (n : Int) 0x7fffffffffffffff)

/-- Equality of values, where doubles are compared as numbers. -/
def same : Value → Value → Bool
  | .float x, .float y => x.numEq y
  | a, b => a == b

end Value

end GridQuery
