import Sift.Decimal.Binary64

/-!
# Sift.Decimal.Shortest

The shortest decimal that reads back as a given floating-point number, and of the
shortest ones the nearest.  A decimal `digits · 10 ^ exponent` reads back when it
lies in the interval of reals that round to the number; the ends belong to it when
the significand is even.

For one, two, … digits the two neighbours of the number on that decimal grid are
tried.  If any point of a grid lies in the interval, one of these two does, so the
first grid with a hit is the coarsest.
-/

namespace Sift.Decimal

open Binary64 (powerOfTen)

/-- The positive decimal `digits · 10 ^ exponent`. -/
structure Scientific where
  digits : Nat
  exponent : Int
deriving DecidableEq, Repr

/-- Which of two equally near decimals is taken. -/
inductive Tie where
  | larger
  | even
deriving DecidableEq, Repr

/-! ## The interval that rounds to a number -/

/-- A positive number in quarters of its last binary place, with the bounds of the
reals that round to it, all over one denominator. -/
structure Rounding where
  low : Nat
  exact : Nat
  high : Nat
  den : Nat
  closed : Bool

/-- The reals that round to a finite nonzero number.  Below a power of two the
neighbouring numbers stand half as far apart. -/
def Binary64.rounding (x : Binary64) : Rounding :=
  let below := if x.fraction = 0 && 1 < x.exponentField then 1 else 2
  let e := x.scale - 2
  let unit := 1 <<< e.toNat
  { low := (4 * x.significand - below) * unit
    exact := 4 * x.significand * unit
    high := (4 * x.significand + 2) * unit
    den := 1 <<< (-e).toNat
    closed := x.significand % 2 = 0 }

/-- Whether `digits` times the grid's unit `num / den` lies in the interval. -/
def Rounding.holds (r : Rounding) (num den digits : Nat) : Bool :=
  let point := digits * num * r.den
  if r.closed then
    r.low * den ≤ point && point ≤ r.high * den
  else
    r.low * den < point && point < r.high * den

/-- The power of ten of the leading digit. -/
def Rounding.leading (r : Rounding) : Int :=
  let d : Int := (Nat.toDigits 10 r.exact).length - (Nat.toDigits 10 r.den).length
  if r.den * powerOfTen d.toNat ≤ r.exact * powerOfTen (-d).toNat then d else d - 1

/-- Whether the smaller of two neighbours is taken, given twice the distance to it
and the distance between the two. -/
def Tie.takesSmaller (tie : Tie) (twice whole smaller : Nat) : Bool :=
  twice < whole || (tie = .even && twice = whole && smaller % 2 = 0)

/-- The nearer of the two neighbours on the grid of `10 ^ exponent`, of those that
lie in the interval. -/
def Rounding.onGrid? (r : Rounding) (tie : Tie) (exponent : Int) : Option Scientific :=
  let num := powerOfTen exponent.toNat
  let den := powerOfTen (-exponent).toNat
  let down := r.exact * den / (num * r.den)
  let rest := r.exact * den % (num * r.den)
  let below := r.holds num den down && 0 < down
  let above := r.holds num den (down + 1)
  if below && (!above || tie.takesSmaller (2 * rest) (num * r.den) down) then
    some ⟨down, exponent⟩
  else if above then
    some ⟨down + 1, exponent⟩
  else
    none

/-- Without zeros at the end of the digits. -/
def Scientific.trim (d : Scientific) : Scientific :=
  let shown := Nat.toDigits 10 d.digits
  let zeros := (shown.reverse.takeWhile (· == '0')).length
  ⟨d.digits / powerOfTen zeros, d.exponent + zeros⟩

/-- The shortest decimal that reads back as the magnitude of a finite nonzero
number.  Seventeen digits always suffice. -/
def Binary64.shortest (x : Binary64) (tie : Tie) : Scientific :=
  let r := x.rounding
  let first := r.leading
  match (List.range 17).findSome? (fun (k : Nat) => r.onGrid? tie (first - k)) with
  | some d => d.trim
  | none => ⟨r.exact, 0⟩

end Sift.Decimal
