import Sift.Decimal.Numeral
import Sift.Decimal.Stepwise
import Sift.Json
import Sift.Text.Hex

/-!
# Sift.Json.Reader

Reading JSON texts.  Arrays and objects nest at most `Json.deepest` levels; a key
that is repeated within an object keeps its first position and takes its last
value.

A number without fraction and exponent is an integer if it fits into 64 bits, with
a sign or without; every other number is read stepwise as a floating-point number, and
refused if it is too large for one.  Minus zero is a floating-point number, as no
integer has its sign.
-/

namespace Sift.Json

open Text (Parser)
open Text.Parser
open Decimal (Binary64)
open Decimal.Numeral (digit ofDigits fraction exponent)

/-- How many arrays and objects may stand inside one another. -/
def deepest : Nat := 127

/-! ## Blanks -/

/-- A character that may stand between the parts of a document. -/
def isBlank (c : Char) : Bool := c = ' ' || c = '\t' || c = '\n' || c = '\r'

/-- Blanks between the parts of a document. -/
def blanks : Parser Unit := do
  let _ ← run isBlank

/-- A punctuation mark and the blanks after it. -/
def mark (c : Char) : Parser Unit := do
  char c
  blanks

/-! ## Texts -/

/-- The first of two code units that write a character. -/
def isLead (unit : Nat) : Bool := 0xd800 ≤ unit && unit < 0xdc00

/-- The second of two code units that write a character. -/
def isTrail (unit : Nat) : Bool := 0xdc00 ≤ unit && unit < 0xe000

/-- The character that a lead and a trail unit write together. -/
def pair (lead trail : Nat) : Char :=
  Char.ofNat (0x10000 + (lead - 0xd800) * 0x400 + (trail - 0xdc00))

/-- The character that a backslash and a letter write. -/
def escaped? (c : Char) : Option Char :=
  if c = '"' || c = '\\' || c = '/' then some c
  else if c = 'b' then some '\x08'
  else if c = 'f' then some '\x0c'
  else if c = 'n' then some '\n'
  else if c = 'r' then some '\r'
  else if c = 't' then some '\t'
  else none

/-- A text from after its opening quote, and what follows the closing one.  A lead
unit needs a trail unit right after it, and a trail unit stands only there. -/
def quoted : List Char → Option (List Char × List Char)
  | [] => none
  | '"' :: rest => some ([], rest)
  | '\\' :: 'u' :: a :: b :: c :: d :: rest => do
    let unit ← Text.ofHex? [a, b, c, d]
    if isTrail unit then
      none
    else if isLead unit then
      match rest with
      | '\\' :: 'u' :: e :: f :: g :: h :: rest' => do
        let trail ← Text.ofHex? [e, f, g, h]
        if isTrail trail then
          let (cs, left) ← quoted rest'
          return (pair unit trail :: cs, left)
        else
          none
      | _ => none
    else
      let (cs, left) ← quoted rest
      return (Char.ofNat unit :: cs, left)
  | '\\' :: c :: rest => do
    let e ← escaped? c
    let (cs, left) ← quoted rest
    return (e :: cs, left)
  | c :: rest =>
    if c.toNat < 32 then
      none
    else do
      let (cs, left) ← quoted rest
      return (c :: cs, left)

def string : Parser String := do
  char '"'
  let cs ← quoted
  return String.ofList cs

/-! ## Numbers -/

/-- Digits before the point: a single zero, or no zero in front. -/
def wholeDigits : Parser (List Char) := do
  match ← run1 Char.isDigit with
  | '0' :: _ :: _ => failure
  | digits => return digits

def number? (minus : Bool) (whole : List Char) (places : Option (List Char))
    (power : Option Int) : Option Number :=
  let n : Int := if minus then -(ofDigits whole : Int) else ofDigits whole
  if places.isNone && power.isNone && exactInt n && !(minus && n = 0) then
    some (.int n)
  else
    (Binary64.ofDigits? minus (whole.map digit) ((places.getD []).map digit)
      (power.getD 0)).map .float

def numeral : Parser Number := do
  let minus ← (do char '-'; return true) <|> return false
  let whole ← wholeDigits
  let places ← fraction (run1 Char.isDigit)
  let power ← exponent (run1 Char.isDigit)
  match number? minus whole places power with
  | some n => return n
  | none => failure

/-! ## Documents -/

/-- A value that is no array or object. -/
def scalar : Parser Json :=
  (do literal "null".toList; return .null)
  <|> (do literal "true".toList; return .bool true)
  <|> (do literal "false".toList; return .bool false)
  <|> (do return .text (← string))
  <|> (do return .number (← numeral))

/-- A sequence between two marks, with commas. -/
def enclosed (opening closing : Char) (item : Parser α) : Parser (List α) := do
  mark opening
  if (← peek) = some closing then
    char closing
    return []
  else
    let items ← sepBy1 item (mark ',')
    char closing
    return items

/-- A value whose arrays and objects nest at most `depth` levels. -/
def value : Nat → Parser Json
  | 0 => scalar
  | depth + 1 => do
    let inner : Parser Json := do
      let j ← value depth
      blanks
      return j
    match ← peek with
    | some '[' => return .array (← enclosed '[' ']' inner)
    | some '\x7b' =>
      let member : Parser (String × Json) := do
        let key ← string
        blanks
        mark ':'
        return (key, ← inner)
      return .object (Keyed.ofList (← enclosed '\x7b' '\x7d' member))
    | _ => scalar

/-- The document that a text writes, with a bound on the levels of nesting. -/
def readWithin (depth : Nat) (s : String) : Option Json :=
  readAll (do blanks; let j ← value depth; blanks; return j) s.toList

def read (s : String) : Option Json := readWithin deepest s

end Sift.Json
