/-!
# Double-precision numbers

A double is a sign and a rank: the place of its magnitude in the increasing order of all
magnitudes, which is what the lower sixty-three bits of its binary form spell. Arithmetic is
exact: a magnitude is a natural number times a power of two, and the one rounding step,
`nearestRank`, finds the rank nearest to a fraction, an exact half going to the even rank.
-/

namespace GridQuery

/-- A double-precision number. -/
structure Double where
  negative : Bool
  rank : Nat
  rank_lt : rank < 0x8000000000000000
deriving DecidableEq

/-! ## Rounding -/

/-- The quotient `num / den` rounded to an integer, a half to the even neighbour. -/
def divNearest (num den : Nat) : Nat :=
  let q := num / den
  let r := num % den
  if 2 * r < den then q
  else if den < 2 * r then q + 1
  else if q % 2 = 0 then q else q + 1

/-- The exponent `e` with `2 ^ e ≤ num / den < 2 ^ (e + 1)`, for positive `num` and `den`. -/
def floorLog2 (num den : Nat) : Int :=
  let e : Int := (Nat.log2 num : Int) - (Nat.log2 den : Int)
  let reaches := if 0 ≤ e then den * Nat.pow 2 e.toNat ≤ num else den ≤ num * Nat.pow 2 (-e).toNat
  if reaches then e else e - 1

namespace Double

/-- The rank of infinity; the ranks above it belong to what is not a number. -/
def infinityRank : Nat := 0x7ff0000000000000

/-- The rank nearest to `num / den`, infinity from halfway beyond the greatest finite one. -/
def nearestRank (num den : Nat) : Nat :=
  if num = 0 then 0
  else
    let q : Int := max (floorLog2 num den - 52) (-1074)
    let m := if 0 ≤ q then divNearest num (den * Nat.pow 2 q.toNat)
      else divNearest (num * Nat.pow 2 (-q).toNat) den
    min ((q + 1074).toNat * 0x10000000000000 + m) infinityRank

theorem nearestRank_lt (num den : Nat) : nearestRank num den < 0x8000000000000000 := by
  have h : infinityRank < 0x8000000000000000 := by decide
  unfold nearestRank
  split
  · decide
  · exact Nat.lt_of_le_of_lt (Nat.min_le_right _ _) h

/-- The double nearest to the fraction `num / den`. -/
def ofRatio (negative : Bool) (num den : Nat) : Double :=
  ⟨negative, nearestRank num den, nearestRank_lt num den⟩

/-- The double nearest to a decimal number, `digits * 10 ^ exponent`. -/
def ofDecimal (negative : Bool) (digits : Nat) (exponent : Int) : Double :=
  if 0 ≤ exponent then ofRatio negative (digits * Nat.pow 10 exponent.toNat) 1
  else ofRatio negative digits (Nat.pow 10 (-exponent).toNat)

def zero (negative : Bool) : Double := ⟨negative, 0, by decide⟩

/-! ## Parts -/

def isFinite (x : Double) : Bool := x.rank < infinityRank

def isNaN (x : Double) : Bool := infinityRank < x.rank

/-- The magnitude is `mantissa * 2 ^ scale`. -/
def mantissa (x : Double) : Nat :=
  if x.rank < 0x10000000000000 then x.rank else 0x10000000000000 + x.rank % 0x10000000000000

def scale (x : Double) : Int :=
  if x.rank < 0x10000000000000 then -1074 else (x.rank / 0x10000000000000 : Nat) - 1075

/-- Equality of numbers: both zeros are equal, and what is not a number equals nothing. -/
def numEq (x y : Double) : Bool :=
  !x.isNaN && !y.isNaN && x.rank == y.rank && (x.negative == y.negative || x.rank == 0)

/-- The magnitude as a fraction of natural numbers. -/
def ratio (x : Double) : Nat × Nat :=
  if 0 ≤ x.scale then (x.mantissa * Nat.pow 2 x.scale.toNat, 1)
  else (x.mantissa, Nat.pow 2 (-x.scale).toNat)

/-! ## Binary form -/

def toBits (x : Double) : Nat := (if x.negative then 0x8000000000000000 else 0) + x.rank

def ofBits (n : Nat) : Double :=
  ⟨n / 0x8000000000000000 % 2 == 1, n % 0x8000000000000000, Nat.mod_lt _ (by decide)⟩

/-! ## Powers of ten -/

/-- The product with the double nearest to `10 ^ k`, rounded. -/
def mulTenPow (x : Double) (k : Nat) : Double :=
  let (a, b) := x.ratio
  let (c, d) := (ofDecimal false 1 k).ratio
  ofRatio x.negative (a * c) (b * d)

/-- The quotient by the double nearest to `10 ^ k`, rounded. -/
def divTenPow (x : Double) (k : Nat) : Double :=
  let (a, b) := x.ratio
  let (c, d) := (ofDecimal false 1 k).ratio
  ofRatio x.negative (a * d) (b * c)

end Double

end GridQuery
