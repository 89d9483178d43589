import Sift.Decimal.Numeral
import Sift.Text.Parser

/-!
# Sift.Toml.Moment

The dates and times of configuration documents.  No setting takes one, so all that is
asked is whether a text writes one.

A date is a year of four digits, a month and a day that the month has in that year.  A
time is hours, minutes and seconds with an optional fraction; a minute may have a leap
second.  After a date and a time the distance from universal time may follow.
-/

namespace Sift.Toml.Moment

open Text (Parser)
open Text.Parser
open Decimal.Numeral (ofDigits)

/-- Exactly `count` decimal digits. -/
def digits : Nat → Parser (List Char)
  | 0 => return []
  | count + 1 => do
    let d ← satisfy Char.isDigit
    return d :: (← digits count)

/-- A number of two digits within bounds. -/
def part (least most : Nat) : Parser Nat := do
  let n := ofDigits (← digits 2)
  if least ≤ n && n ≤ most then return n else failure

/-! ## Dates -/

/-- Years divisible by four are leap years, of those that end a century every fourth. -/
def isLeapYear (year : Nat) : Bool := year % 4 = 0 && (year % 100 ≠ 0 || year % 400 = 0)

def daysIn (year month : Nat) : Nat :=
  if month = 2 then (if isLeapYear year then 29 else 28)
  else if month = 4 || month = 6 || month = 9 || month = 11 then 30
  else 31

def date : Parser Unit := do
  let year := ofDigits (← digits 4)
  char '-'
  let month ← part 1 12
  char '-'
  let _ ← part 1 (daysIn year month)

/-! ## Times -/

def time : Parser Unit := do
  let _ ← part 0 23
  char ':'
  let _ ← part 0 59
  char ':'
  let _ ← part 0 60
  (do char '.'; let _ ← run1 Char.isDigit) <|> pure ()

/-- The distance from universal time. -/
def offset : Parser Unit :=
  (do let _ ← satisfy fun c => c = 'Z' || c = 'z')
  <|> do
    let _ ← satisfy fun c => c = '+' || c = '-'
    let _ ← part 0 23
    char ':'
    let _ ← part 0 59

/-- What may follow a date: a time, and the distance from universal time. -/
def afterDate : Parser Unit := do
  let _ ← satisfy fun c => c = 'T' || c = 't' || c = ' '
  time
  offset <|> pure ()

/-- A date, a date with a time, or a time. -/
def moment : Parser Unit := (do date; afterDate <|> pure ()) <|> time

end Sift.Toml.Moment
