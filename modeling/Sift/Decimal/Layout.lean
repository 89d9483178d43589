import Sift.Decimal.Shortest

/-!
# Sift.Decimal.Layout

Ways to write a floating-point number, all with the digits of the shortest decimal
that reads back.  A `Layout` says from where on an exponent is written, whether
whole numbers keep a `.0`, and whether a positive exponent has a sign.

* `Layout.plain` — never an exponent, whole numbers bare: text for patterns;
* `Layout.described` — for descriptions of values: an exponent from `10 ^ 16` on
  and below `10 ^ -4`, else at least one place;
* `Layout.document` — for documents: an exponent with its sign from `10 ^ 16` on and
  below `10 ^ -5`, else at least one place.
-/

namespace Sift.Decimal

/-- Where exponents are written and what whole numbers look like.  The position
of the point is counted from before the first digit. -/
structure Layout where
  /-- Smallest position of the point that is written without an exponent. -/
  least : Option Int
  /-- Largest position of the point that is written without an exponent. -/
  most : Option Int
  /-- Written after whole numbers that have no exponent. -/
  whole : List Char
  /-- Written before a positive exponent. -/
  positive : List Char
  /-- Which of two equally near decimals is written. -/
  tie : Tie

namespace Layout

/-- Never an exponent, and whole numbers bare. -/
def plain : Layout := ⟨none, none, [], [], .larger⟩

/-- An exponent from `10 ^ 16` on and below `10 ^ -4`, else at least one place. -/
def described : Layout := ⟨some (-3), some 16, ['.', '0'], [], .larger⟩

/-- An exponent with its sign from `10 ^ 16` on and below `10 ^ -5`, else at least one
place. -/
def document : Layout := ⟨some (-4), some 16, ['.', '0'], ['+'], .even⟩

/-- Whether a point at this position is written without an exponent. -/
def positional (l : Layout) (point : Int) : Bool :=
  l.least.all (· ≤ point) && l.most.all (point ≤ ·)

/-- Digits with the point at a position, filled up with zeros. -/
def withPoint (l : Layout) (digits : List Char) (point : Int) : List Char :=
  let count : Int := digits.length
  if point ≤ 0 then
    '0' :: '.' :: List.replicate (-point).toNat '0' ++ digits
  else if count ≤ point then
    digits ++ List.replicate (point - count).toNat '0' ++ l.whole
  else
    digits.take point.toNat ++ '.' :: digits.drop point.toNat

/-- Digits with the point after the first one and a power of ten. -/
def withExponent (l : Layout) (digits : List Char) (point : Int) : List Char :=
  let mantissa := match digits with
    | d :: e :: rest => d :: '.' :: e :: rest
    | _ => digits
  mantissa ++ 'e' :: (if 0 < point then l.positive else []) ++ (toString (point - 1)).toList

def decimal (l : Layout) (d : Scientific) : List Char :=
  let digits := Nat.toDigits 10 d.digits
  let point := d.exponent + digits.length
  if l.positional point then l.withPoint digits point else l.withExponent digits point

def write (l : Layout) (x : Binary64) : String :=
  let magnitude :=
    if x.isInfinite then ['i', 'n', 'f']
    else if x.significand = 0 then '0' :: l.whole
    else l.decimal (x.shortest l.tie)
  if x.isNaN then "NaN" else String.ofList (if x.negative then '-' :: magnitude else magnitude)

end Layout

end Sift.Decimal
