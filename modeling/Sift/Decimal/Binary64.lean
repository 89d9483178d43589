/-!
# Sift.Decimal.Binary64

The 64-bit binary floating-point numbers, kept as their bits.  A finite number is
`significand · 2 ^ scale`, negated if its sign bit is set.  They are read from decimal
notation and written in it, and both are decided by exact arithmetic on naturals.

Reading rounds to the nearest number and an exact half to the even significand.
-/

namespace Sift.Decimal

/-- A 64-bit binary floating-point number by its bits: sign, eleven bits of
exponent, fifty-two of fraction. -/
structure Binary64 where
  bits : UInt64
deriving DecidableEq, Repr

namespace Binary64

/-! ## The three fields -/

/-- Whether the sign bit is set. -/
def negative (x : Binary64) : Bool := 1 <<< 63 ≤ x.bits.toNat

/-- The exponent field, below 2048. -/
def exponentField (x : Binary64) : Nat := (x.bits.toNat >>> 52) % 2048

/-- The fraction field, below `2 ^ 52`. -/
def fraction (x : Binary64) : Nat := x.bits.toNat % (1 <<< 52)

/-- Not a number: every bit of the exponent is set and the fraction is not zero. -/
def isNaN (x : Binary64) : Bool := x.exponentField = 2047 && x.fraction ≠ 0

def isInfinite (x : Binary64) : Bool := x.exponentField = 2047 && x.fraction = 0

/-- The significand of a finite number; numbers with exponent field zero have no
leading one. -/
def significand (x : Binary64) : Nat :=
  if x.exponentField = 0 then x.fraction else (1 <<< 52) + x.fraction

/-- The power of two that the significand of a finite number counts. -/
def scale (x : Binary64) : Int := (max x.exponentField 1 : Nat) - 1075

/-- The magnitude of a finite number is `numerator / denominator`. -/
def numerator (x : Binary64) : Nat := x.significand <<< x.scale.toNat

/-- The magnitude of a finite number counts parts of this power of two. -/
def denominator (x : Binary64) : Nat := 1 <<< (-x.scale).toNat

/-! ## Particular numbers -/

/-- The number with the given sign and remaining bits. -/
def ofFields (negative : Bool) (magnitude : Nat) : Binary64 :=
  ⟨UInt64.ofNat (magnitude + if negative then 1 <<< 63 else 0)⟩

def zero (negative : Bool) : Binary64 := ofFields negative 0

def infinity (negative : Bool) : Binary64 := ofFields negative (2047 <<< 52)

/-- The one not-a-number that is ever produced. -/
def nan : Binary64 := ofFields false (4095 <<< 51)

/-! ## Rounding a quotient -/

/-- The quotient of naturals, rounded to the nearest natural, a half to the even
one. -/
def roundDiv (num den : Nat) : Nat :=
  let q := num / den
  let r := num % den
  if 2 * r < den || (2 * r = den && q % 2 = 0) then q else q + 1

/-- The power of two at which `num / den` has its last binary place: fifty-two
places after the leading one, and never below `2 ^ -1074`. -/
def lastPlace (num den : Nat) : Int :=
  let d : Int := (num.log2 : Int) - den.log2
  let leading := if den <<< d.toNat ≤ num <<< (-d).toNat then d else d - 1
  max (leading - 52) (-1074)

/-- The magnitude bits of the number nearest to `num / den`, if it is below the
infinities.  The exponent field and the fraction adjoin, so that a significand
that rounds up to a power of two carries into the exponent. -/
def magnitude? (num den : Nat) : Option Nat :=
  let e := lastPlace num den
  let q := roundDiv (num <<< (-e).toNat) (den <<< e.toNat)
  let bits := ((e + 1074).toNat <<< 52) + q
  if bits < 2047 <<< 52 then some bits else none

/-- The number nearest to `num / den` with a sign, or nothing if that lies beyond the
finite numbers. -/
def ofRatio? (negative : Bool) (num den : Nat) : Option Binary64 :=
  if num = 0 then some (zero negative) else (magnitude? num den).map (ofFields negative)

/-! ## Reading decimal notation -/

def powerOfTen (exponent : Nat) : Nat := Nat.pow 10 exponent

/-- The number nearest to `digits · 10 ^ exponent`, or nothing if that lies beyond
the finite numbers.  Exponents far outside the range are settled by the count of
digits alone. -/
def ofDecimal? (negative : Bool) (digits : Nat) (exponent : Int) : Option Binary64 :=
  let places : Int := (Nat.toDigits 10 digits).length
  if digits = 0 then
    some (zero negative)
  else if places + exponent > 310 then
    none
  else if places + exponent < -325 then
    some (zero negative)
  else
    ofRatio? negative (digits * powerOfTen exponent.toNat) (powerOfTen (-exponent).toNat)

/-- The number nearest to an integer, or nothing if there is none that large. -/
def ofInt? (n : Int) : Option Binary64 := ofDecimal? (n < 0) n.natAbs 0

end Binary64

end Sift.Decimal
