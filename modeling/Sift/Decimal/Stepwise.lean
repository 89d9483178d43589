import Sift.Decimal.Binary64

/-!
# Sift.Decimal.Stepwise

Reading decimal notation in few rounded steps.  As many leading digits as fit into a
word of 64 bits are rounded to a floating-point number; this is multiplied with a
power of ten or divided by one, and rounded again.

Up to `2 ^ 53` and for powers up to `10 ^ 22` both are exact before the last step, and
the result is the number nearest to what is written.  Elsewhere it can be some places
off, and a decimal just below the infinities can lie beyond the finite numbers.
-/

namespace Sift.Decimal

namespace Binary64

/-! ## Rounded products and quotients -/

/-- The product of finite numbers, rounded, if it is finite. -/
def mul? (x y : Binary64) : Option Binary64 :=
  ofRatio? (x.negative != y.negative) (x.numerator * y.numerator)
    (x.denominator * y.denominator)

/-- The quotient of finite numbers, rounded, if it is finite.  The second one is not
zero. -/
def div? (x y : Binary64) : Option Binary64 :=
  ofRatio? (x.negative != y.negative) (x.numerator * y.denominator)
    (x.denominator * y.numerator)

/-! ## Powers of ten -/

/-- The largest exponent of a finite power of ten. -/
def mostTens : Nat := 308

/-- The number nearest to a power of ten, if that is finite. -/
def tens? (exponent : Nat) : Option Binary64 := ofDecimal? false 1 exponent

/-- A number times `10 ^ exponent`, or nothing if that lies beyond the finite numbers.
Division by more than the largest power is done in steps. -/
def rescale? (x : Binary64) (exponent : Int) : Option Binary64 :=
  if x.significand = 0 then
    some x
  else if mostTens < exponent then
    none
  else if 0 ≤ exponent then
    (tens? exponent.toNat).bind x.mul?
  else if -mostTens ≤ exponent then
    (tens? (-exponent).toNat).bind x.div?
  else
    ((tens? mostTens).bind x.div?).bind fun y => y.rescale? (exponent + mostTens)
termination_by exponent.natAbs
decreasing_by simp only [mostTens] at *; omega

end Binary64

/-! ## Digits in a word -/

/-- The number of the leading digits that fit into a word together with what it
holds, and how many digits are left out. -/
def fill (word : Nat) : List Nat → Nat × Nat
  | [] => (word, 0)
  | d :: ds =>
    if 10 * word + d < UInt64.size then fill (10 * word + d) ds else (word, ds.length + 1)

/-- The number that digits before and after the point and a power of ten write, or
nothing if it lies beyond the finite numbers.  Digits that are left out before the
point still count as places. -/
def Binary64.ofDigits? (negative : Bool) (whole fraction : List Nat) (exponent : Int) :
    Option Binary64 :=
  let (word, skipped) := fill 0 whole
  let (digits, unused) := fill word fraction
  (ofDecimal? negative digits 0).bind fun x =>
    x.rescale? (exponent + skipped - (fraction.length - unused : Nat))

end Sift.Decimal
