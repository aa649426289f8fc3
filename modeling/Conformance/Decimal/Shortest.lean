/-!
Shortest decimals of binary floating-point numbers. A double `m · 2^q` stands for every real number
that rounds to it; `Double.shortest` looks for the coarsest decimal grid that has a point among them
and takes the point nearest to the double.
-/

namespace Conformance

/-- The number `digits · 10^exponent`. -/
structure Decimal where
  digits : Nat
  exponent : Int
deriving DecidableEq, Inhabited

namespace Decimal

/-- The count of decimal digits of a positive number; zero has one. -/
def digitCount (n : Nat) : Nat := (Nat.toDigits 10 n).length

/-- The same number without trailing zeros in its digits, for at most `fuel` of them. -/
def dropZeros : (fuel : Nat) → Decimal → Decimal
  | 0, d => d
  | fuel + 1, d =>
    if d.digits ≠ 0 ∧ d.digits % 10 = 0 then dropZeros fuel ⟨d.digits / 10, d.exponent + 1⟩ else d

end Decimal

/-- The positive rational number `num / den`. -/
structure Ratio where
  num : Nat
  den : Nat

namespace Ratio

def shift (r : Ratio) (exponent : Int) : Ratio :=
  match exponent with
  | .ofNat e => ⟨r.num, r.den * Nat.pow 10 e⟩
  | .negSucc e => ⟨r.num * Nat.pow 10 (e + 1), r.den⟩

/-- The greatest power of ten that is not above the ratio. -/
def magnitude (r : Ratio) : Int :=
  if r.den ≤ r.num then Decimal.digitCount (r.num / r.den) - 1
  else - (Decimal.digitCount ((r.den + r.num - 1) / r.num - 1) : Int)

end Ratio

namespace Double

/-- The reals that round to a positive double, as ratios; the ends belong to them if `closed`. -/
structure Interval where
  low : Ratio
  value : Ratio
  high : Ratio
  closed : Bool

/-- The least significand of a normal double: the fraction has 52 bits below the leading one. -/
def leastNormal : Nat := Nat.pow 2 52

/-- The interval of the double `m · 2^q`; below a power of two the doubles are twice as dense. -/
def interval (m : Nat) (q : Int) : Interval :=
  let scale (n : Nat) : Ratio :=
    match q - 2 with
    | .ofNat e => ⟨n * Nat.pow 2 e, 1⟩
    | .negSucc e => ⟨n, Nat.pow 2 (e + 1)⟩
  let low := if m = leastNormal ∧ q ≠ -1074 then 4 * m - 1 else 4 * m - 2
  ⟨scale low, scale (4 * m), scale (4 * m + 2), m % 2 == 0⟩

/-- Whether the grid point `n` of the grid of step `10^e` lies in the interval. -/
def Interval.hits (i : Interval) (e : Int) (n : Nat) : Bool :=
  let low := i.low.shift e
  let high := i.high.shift e
  if i.closed then low.num ≤ n * low.den && n * high.den ≤ high.num
  else low.num < n * low.den && n * high.den < high.num

/-- The point of the grid of `k` digits that is nearest to the double, if one rounds to it. -/
def Interval.onGrid? (i : Interval) (k : Nat) : Option Decimal :=
  let e := i.value.magnitude - (k : Int) + 1
  let v := i.value.shift e
  let below := v.num / v.den
  match i.hits e below, i.hits e (below + 1) with
  | true, true =>
    let twice := 2 * (v.num % v.den : Nat)
    let up := decide (v.den < twice) || (decide (twice = v.den) && below % 2 == 1)
    some ⟨if up then below + 1 else below, e⟩
  | true, false => some ⟨below, e⟩
  | false, true => some ⟨below + 1, e⟩
  | false, false => none

/-- The shortest decimal that reads back as the positive double `m · 2^q`. -/
def shortest (m : Nat) (q : Int) : Decimal :=
  let i := interval m q
  let found := ((List.range 17).map (· + 1)).findSome? i.onGrid?
  (found.getD ⟨0, 0⟩).dropZeros 17

/-- The significand and the binary exponent of the magnitude of a finite double. -/
def parts (x : Float) : Nat × Int :=
  let bits := x.toBits.toNat
  let fraction := bits % leastNormal
  let biased : Nat := bits / leastNormal % 2048
  if biased = 0 then (fraction, -1074) else (fraction + leastNormal, (biased : Int) - 1075)

/-- Whether the sign bit is set, as it is in the negative zero. -/
def isNegative (x : Float) : Bool := x.toBits.toNat / (UInt64.size / 2) == 1

end Double

end Conformance
