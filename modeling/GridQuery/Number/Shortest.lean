import GridQuery.Number.Double

/-!
# Shortest decimal text

Of all decimal numbers that read back as a given double the shortest one is shown, and of
several of that length the nearest. The texts that read back fill an interval around the
double; for one digit, two digits and so on the two neighbours of the double on that decimal
grid are tried until one lies inside.

Magnitudes from 1e-5 up to 1e16 have a point and at least one digit behind it, all others an
exponent with its sign.
-/

namespace GridQuery.Double

/-- The interval of numbers that round to a double, as fractions over one denominator. -/
structure Interval where
  low : Nat
  value : Nat
  high : Nat
  den : Nat
  /-- The ends themselves round to the double. -/
  closed : Bool

/-- The interval of `x`: half a step to either side, the lower step being half as wide just
above a power of two. -/
def interval (x : Double) : Interval :=
  let m := x.mantissa
  let low := if m = 0x10000000000000 ∧ 0x20000000000000 ≤ x.rank then 4 * m - 1 else 4 * m - 2
  let s := x.scale - 2
  let (k, d) := if 0 ≤ s then (Nat.pow 2 s.toNat, 1) else (1, Nat.pow 2 (-s).toNat)
  ⟨low * k, 4 * m * k, (4 * m + 2) * k, d, m % 2 == 0⟩

def Interval.contains (i : Interval) (num den : Nat) : Bool :=
  if i.closed then i.low * den ≤ num * i.den && num * i.den ≤ i.high * den
  else i.low * den < num * i.den && num * i.den < i.high * den

/-- The exponent `p` with `10 ^ p ≤ num / den < 10 ^ (p + 1)`, for positive `num` and `den`. -/
def floorLog10 (num den : Nat) : Int :=
  let p := floorLog2 num den * 30103 / 100000
  let reaches (p : Int) : Bool :=
    if 0 ≤ p then den * Nat.pow 10 p.toNat ≤ num else den ≤ num * Nat.pow 10 (-p).toNat
  if reaches (p + 1) then p + 1 else if reaches p then p else p - 1

/-- The grid neighbour with `n` digits that lies inside the interval and nearest to the value. -/
def onGrid (i : Interval) (p : Int) (n : Nat) : Option (Nat × Int) :=
  let e : Int := p + 1 - n
  let num := if 0 ≤ e then i.value else i.value * Nat.pow 10 (-e).toNat
  let den := if 0 ≤ e then i.den * Nat.pow 10 e.toNat else i.den
  let inside (d : Nat) : Bool :=
    if 0 ≤ e then i.contains (d * Nat.pow 10 e.toNat) 1 else i.contains d (Nat.pow 10 (-e).toNat)
  let below := num / den
  let near := divNearest num den
  let far := if near = below then below + 1 else below
  if inside near then some (near, e) else if inside far then some (far, e) else none

/-- Digits and exponent of the shortest decimal that reads back as `x`, finite and not zero. -/
def shortest (x : Double) : Nat × Int :=
  let i := x.interval
  let p := floorLog10 i.value i.den
  ((List.range 17).findSome? fun n => onGrid i p (n + 1)).getD (0, 0)

/-- The digits with a point `point` places from their start, zeros filling the gaps. -/
def positional (ds : List Char) (point : Int) : List Char :=
  let size : Int := ds.length
  if point ≤ 0 then '0' :: '.' :: List.replicate (-point).toNat '0' ++ ds
  else if size ≤ point then ds ++ List.replicate (point - size).toNat '0' ++ ['.', '0']
  else ds.take point.toNat ++ '.' :: ds.drop point.toNat

/-- The digits with a point behind the first, and an exponent with its sign. -/
def scientific (ds : List Char) (exponent : Int) : List Char :=
  let lead := match ds with
    | [d] => [d]
    | d :: ds => d :: '.' :: ds
    | [] => []
  lead ++ 'e' :: (if exponent < 0 then '-' else '+') :: Nat.toDigits 10 exponent.natAbs

/-- The text of a finite double. -/
def text (x : Double) : String :=
  let sign := if x.negative then ['-'] else []
  if x.rank = 0 then String.ofList (sign ++ ['0', '.', '0'])
  else
    let (n, e) := x.shortest
    let all := Nat.toDigits 10 n
    let ds := (all.reverse.dropWhile (· == '0')).reverse
    let point : Int := all.length + e
    String.ofList (sign ++
      if -5 < point ∧ point ≤ 16 then positional ds point else scientific ds (point - 1))

end GridQuery.Double
