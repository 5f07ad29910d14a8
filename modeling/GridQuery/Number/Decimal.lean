import GridQuery.Number.Double
import GridQuery.Number.Integer

/-!
# Reading decimal numbers

A decimal number is written as an optional sign, digits with an optional point among or beside
them, and an optional exponent. `Decimal.read?` gives the number that the text denotes
exactly, `Decimal.toDouble` the double nearest to it.
-/

namespace GridQuery

/-- The number `± digits * 10 ^ exponent`. -/
structure Decimal where
  negative : Bool
  digits : Nat
  exponent : Int
deriving DecidableEq, Repr

namespace Decimal

/-- The value of a run of digits. -/
def ofDigits (cs : List Char) : Nat := cs.foldl (fun n c => n * 10 + (c.toNat - '0'.toNat)) 0

/-- The exponent part: nothing, or `e`, an optional sign and at least one digit. -/
def readExponent? : List Char → Option Int
  | [] => some 0
  | c :: cs =>
    if c = 'e' ∨ c = 'E' then
      let (negative, ds) := match cs with
        | '-' :: ds => (true, ds)
        | '+' :: ds => (false, ds)
        | ds => (false, ds)
      if ds ≠ [] ∧ ds.all Char.isDigit then
        some (if negative then -(ofDigits ds : Int) else ofDigits ds)
      else none
    else none

/-- A number without its sign. -/
def readUnsigned? (negative : Bool) (cs : List Char) : Option Decimal :=
  let whole := cs.takeWhile Char.isDigit
  let rest := cs.dropWhile Char.isDigit
  let (part, rest) := match rest with
    | '.' :: rest => (rest.takeWhile Char.isDigit, rest.dropWhile Char.isDigit)
    | rest => ([], rest)
  if whole = [] ∧ part = [] then none
  else
    (readExponent? rest).map fun e => ⟨negative, ofDigits (whole ++ part), e - part.length⟩

def readChars? : List Char → Option Decimal
  | '-' :: cs => readUnsigned? true cs
  | '+' :: cs => readUnsigned? false cs
  | cs => readUnsigned? false cs

def read? (s : String) : Option Decimal := readChars? s.toList

/-- The nearest double. Outside the powers of ten that doubles reach the answer is zero or
infinity, and no power is computed. -/
def toDouble (d : Decimal) : Double :=
  let size : Int := (Nat.toDigits 10 d.digits).length
  if d.digits = 0 then Double.zero d.negative
  else if size + d.exponent < -400 then Double.zero d.negative
  else if 400 < size + d.exponent then ⟨d.negative, Double.infinityRank, by decide⟩
  else Double.ofDecimal d.negative d.digits d.exponent

end Decimal

/-- The finite double a text denotes. -/
def Double.read? (s : String) : Option Double :=
  match Decimal.read? s with
  | some d => if d.toDouble.isFinite then some d.toDouble else none
  | none => none

end GridQuery
