import Sift.Json
import Sift.Decimal.Layout
import Sift.Inspect

/-!
# Sift.Json.Writer

Writing JSON documents on one line without blanks.  Only quotes, backslashes and
control characters are escaped.  Beside the written form stands a one-line
description, which names the kind of every value.
-/

namespace Sift.Json

open Decimal (Layout)

/-! ## Texts -/

/-- A control character by its place. -/
def controlEscape (c : Char) : List Char :=
  let digits := Nat.toDigits 16 c.toNat
  ['\\', 'u'] ++ List.replicate (4 - digits.length) '0' ++ digits

/-- A character as it stands between quotes. -/
def writtenChar (c : Char) : List Char :=
  if c = '"' then ['\\', '"']
  else if c = '\\' then ['\\', '\\']
  else if c = '\x08' then ['\\', 'b']
  else if c = '\x0c' then ['\\', 'f']
  else if c = '\n' then ['\\', 'n']
  else if c = '\r' then ['\\', 'r']
  else if c = '\t' then ['\\', 't']
  else if c.toNat < 32 then controlEscape c
  else [c]

/-- A text in quotes. -/
def writtenText (s : String) : String :=
  String.ofList ('"' :: s.toList.flatMap writtenChar ++ ['"'])

/-! ## Documents -/

def Number.written : Number → String
  | .int n => toString n
  | .float x => Layout.document.write x

mutual

/-- A document on one line. -/
def write : Json → String
  | .null => "null"
  | .bool b => if b then "true" else "false"
  | .number n => n.written
  | .text s => writtenText s
  | .array items => "[" ++ String.intercalate "," (writeItems items) ++ "]"
  | .object members => "\x7b" ++ String.intercalate "," (writeMembers members) ++ "\x7d"

def writeItems : List Json → List String
  | [] => []
  | j :: js => write j :: writeItems js

def writeMembers : List (String × Json) → List String
  | [] => []
  | (key, j) :: ms => (writtenText key ++ ":" ++ write j) :: writeMembers ms

end

/-! ## Descriptions -/

mutual

def inspect : Json → String
  | .null => "Null"
  | .bool b => Inspect.tagged "Bool" (Inspect.flag b)
  | .number n => Inspect.tagged "Number" n.written
  | .text s => Inspect.tagged "String" (Inspect.text s)
  | .array items => "Array " ++ Inspect.list (inspectItems items)
  | .object members => "Object " ++ Inspect.map (inspectMembers members)

def inspectItems : List Json → List String
  | [] => []
  | j :: js => inspect j :: inspectItems js

def inspectMembers : List (String × Json) → List (String × String)
  | [] => []
  | (key, j) :: ms => (key, inspect j) :: inspectMembers ms

end

end Sift.Json
