/-!
# Reading integers

An integer is written as an optional sign and one or more digits 0 to 9, and must lie in a
range. The characters are read from the left and the first obstacle is reported: a character
that is no digit, or the digit with which the number leaves the range. A range without
negative numbers knows no minus sign.
-/

namespace GridQuery

/-- Why a text is not an integer of a range. -/
inductive IntegerFault where
  | empty
  | invalidDigit
  | tooLarge
  | tooSmall
deriving DecidableEq, Repr

def IntegerFault.message : IntegerFault → String
  | .empty => "cannot parse integer from empty string"
  | .invalidDigit => "invalid digit found in string"
  | .tooLarge => "number too large to fit in target type"
  | .tooSmall => "number too small to fit in target type"

/-- The integers from `min` to `max`. -/
structure IntegerRange where
  min : Int
  max : Int

namespace IntegerRange

def signed64 : IntegerRange := ⟨-0x8000000000000000, 0x7fffffffffffffff⟩

def unsigned64 : IntegerRange := ⟨0, 0xffffffffffffffff⟩

def unsigned32 : IntegerRange := ⟨0, 0xffffffff⟩

def unsigned16 : IntegerRange := ⟨0, 0xffff⟩

def contains (r : IntegerRange) (n : Int) : Bool := r.min ≤ n && n ≤ r.max

/-- `n` itself, or the end of the range that it lies beyond. -/
def clamp (r : IntegerRange) (n : Int) : Int :=
  if n < r.min then r.min else if r.max < n then r.max else n

end IntegerRange

/-- The value of a digit 0 to 9. -/
def digitValue? (c : Char) : Option Nat := if c.isDigit then some (c.toNat - '0'.toNat) else none

namespace IntegerRange

/-- Appends the digits `cs` to `n`, moving away from zero. -/
def readDigits (r : IntegerRange) (negative : Bool) (n : Int) : List Char → Except IntegerFault Int
  | [] => .ok n
  | c :: cs =>
    match digitValue? c with
    | none => .error .invalidDigit
    | some d =>
      let m := if negative then n * 10 - d else n * 10 + d
      if r.max < m then .error .tooLarge
      else if m < r.min then .error .tooSmall
      else readDigits r negative m cs

def readChars (r : IntegerRange) : List Char → Except IntegerFault Int
  | [] => .error .empty
  | ['+'] => .error .invalidDigit
  | ['-'] => .error .invalidDigit
  | '+' :: cs => r.readDigits false 0 cs
  | '-' :: cs => if r.min < 0 then r.readDigits true 0 cs else .error .invalidDigit
  | cs => r.readDigits false 0 cs

def read (r : IntegerRange) (s : String) : Except IntegerFault Int := r.readChars s.toList

def read? (r : IntegerRange) (s : String) : Option Int := (r.read s).toOption

end IntegerRange

end GridQuery
