import Sift.Decimal.Binary64
import Sift.Text.Parser

/-!
# Sift.Decimal.Numeral

Decimal notation: an optional sign, digits with an optional point, and an optional
power of ten.  The formats of this library have rules of their own for the digits, so
the parts are readers that can be put together.

`Numeral.int?` reads an integer; zeros may stand in front.  `Binary64.ofText?` reads the
most permissive form, which also has names for the infinities and for what is not a
number.
-/

namespace Sift.Decimal

namespace Numeral

open Text (Parser)
open Text.Parser

/-! ## Parts -/

def digit (c : Char) : Nat := c.toNat - 48

def ofDigits (digits : List Char) : Nat := digits.foldl (fun n d => 10 * n + digit d) 0

/-- Whether a minus stands in front; a plus may stand there instead. -/
def sign : Parser Bool :=
  (do char '-'; return true) <|> (do char '+'; return false) <|> return false

/-- The digits after the point, if there is a point. -/
def fraction (digits : Parser (List Char)) : Parser (Option (List Char)) := do
  if (← peek) = some '.' then
    char '.'
    return some (← digits)
  else
    return none

/-- An exponent's mark, sign and digits, if there is a mark. -/
def exponent (digits : Parser (List Char)) : Parser (Option Int) := do
  if (← peek).any (fun c => c = 'e' || c = 'E') then
    let _ ← satisfy fun _ => true
    let minus ← sign
    let n : Int := ofDigits (← digits)
    return some (if minus then -n else n)
  else
    return none

/-! ## Whole numerals -/

/-- The number nearest to a decimal; beyond the finite numbers, an infinity. -/
def nearest (negative : Bool) (whole fraction : List Char) (exponent : Int) : Binary64 :=
  (Binary64.ofDecimal? negative (ofDigits (whole ++ fraction)) (exponent - fraction.length)).getD
    (.infinity negative)

/-- An integer without a point. -/
def integer (negative : Bool) : Parser Int := do
  let n : Int := ofDigits (← run1 Char.isDigit)
  return if negative then -n else n

/-- Digits on either side of a point, and a power of ten. -/
def decimal (negative : Bool) : Parser Binary64 := do
  let whole ← run Char.isDigit
  let places ← fraction (run Char.isDigit)
  if whole.isEmpty && (places.getD []).isEmpty then
    failure
  else
    let power ← exponent (run1 Char.isDigit)
    return nearest negative whole (places.getD []) (power.getD 0)

/-- A number by its name, in letters of either case. -/
def named (negative : Bool) : Parser Binary64 := do
  let letters ← run1 Char.isAlpha
  match String.ofList (letters.map Char.toLower) with
  | "inf" | "infinity" => return .infinity negative
  | "nan" => return .nan
  | _ => failure

def int? (s : String) : Option Int := readAll (do integer (← sign)) s.toList

end Numeral

open Numeral in
/-- The floating-point number nearest to what a text writes.  Too large a number is
infinite. -/
def Binary64.ofText? (s : String) : Option Binary64 :=
  Text.Parser.readAll (do
    let negative ← sign
    decimal negative <|> named negative) s.toList

end Sift.Decimal
