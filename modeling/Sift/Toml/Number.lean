import Sift.Decimal.Numeral
import Sift.Text.Hex

/-!
# Sift.Toml.Number

The integers and floating-point numbers of configuration documents.  No setting takes
one, so all that is asked is whether a text writes one.

Single underscores may stand between digits.  An integer has 64 bits with a sign; it
is decimal, or after `0x`, `0o` or `0b` hexadecimal, octal or binary and without a sign.
A floating-point number has a fraction or an exponent and is not too large.
-/

namespace Sift.Toml.Number

open Text (Parser)
open Text.Parser
open Decimal (Numeral.sign Numeral.fraction Numeral.exponent Numeral.nearest)

/-! ## Digits -/

/-- Digits of a class.  The underscores between them are left out. -/
def grouped (isDigit : Char → Bool) : Parser (List Char) := do
  let d ← satisfy isDigit
  let ds ← many (do char '_' <|> pure (); satisfy isDigit)
  return d :: ds

/-- Digits before the point: a single zero, or no zero in front. -/
def wholeDigits : Parser (List Char) := do
  if (← peek) = some '0' then
    char '0'
    return ['0']
  else
    grouped Char.isDigit

/-- The value of a digit of a base up to sixteen. -/
def digit? (base : Nat) (c : Char) : Option Nat := (Text.hexDigit? c).filter (· < base)

def ofDigits (base : Nat) (digits : List Char) : Nat :=
  digits.foldl (fun n c => base * n + ((digit? base c).getD 0)) 0

/-! ## Integers -/

/-- Whether an integer has 64 bits with a sign. -/
def fits (n : Int) : Bool := Int64.minValue.toInt ≤ n && n ≤ Int64.maxValue.toInt

/-- An integer after a letter for its base. -/
def based (letter : Char) (base : Nat) : Parser Unit := do
  literal ['0', letter]
  let digits ← grouped fun c => (digit? base c).isSome
  if fits (ofDigits base digits) then pure () else failure

/-! ## Decimal notation -/

/-- A decimal integer, or a floating-point number. -/
def decimal : Parser Unit := do
  let minus ← Numeral.sign
  let whole ← wholeDigits
  let places ← Numeral.fraction (grouped Char.isDigit)
  let power ← Numeral.exponent (grouped Char.isDigit)
  let n : Int := ofDigits 10 whole
  let accepted :=
    if places.isNone && power.isNone then
      fits (if minus then -n else n)
    else
      Numeral.nearest minus whole (places.getD []) (power.getD 0) ≠ .infinity false
  if accepted then pure () else failure

def named : Parser Unit := do
  let _ ← Numeral.sign
  literal ['i', 'n', 'f'] <|> literal ['n', 'a', 'n']

def number : Parser Unit :=
  based 'x' 16 <|> based 'o' 8 <|> based 'b' 2 <|> named <|> decimal

end Sift.Toml.Number
