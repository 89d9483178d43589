import Sift.Text.VisibleTable

/-!
# Sift.Inspect

One-line descriptions of values, for people who look into a running engine.  A
record is written with its name and its fields, a list in brackets, and a text in
quotes with everything that does not show by itself escaped.
-/

namespace Sift.Inspect

/-! ## Texts -/

/-- A character by its place in the character standard. -/
def escape (c : Char) : List Char :=
  ['\\', 'u', '\x7b'] ++ Nat.toDigits 16 c.toNat ++ ['\x7d']

/-- Whether a character shows by itself. -/
def shows (c : Char) : Bool :=
  if c.toNat < 128 then
    32 ≤ c.toNat && c.toNat < 127
  else
    [Text.extending, Text.fillers, Text.unprintable].all fun table => !Text.inTable table c

/-- A character as it stands between quotes. -/
def character (c : Char) : List Char :=
  if c = '\x00' then ['\\', '0']
  else if c = '\t' then ['\\', 't']
  else if c = '\r' then ['\\', 'r']
  else if c = '\n' then ['\\', 'n']
  else if c = '"' then ['\\', '"']
  else if c = '\\' then ['\\', '\\']
  else if shows c then [c]
  else escape c

def text (s : String) : String :=
  String.ofList ('"' :: s.toList.flatMap character ++ ['"'])

/-! ## Composite values -/

def flag (b : Bool) : String := if b then "true" else "false"

/-- A value wrapped in a name. -/
def tagged (name inner : String) : String := name ++ "(" ++ inner ++ ")"

def option (inspect : α → String) : Option α → String
  | none => "None"
  | some a => tagged "Some" (inspect a)

def list (items : List String) : String := "[" ++ String.intercalate ", " items ++ "]"

def map (entries : List (String × String)) : String :=
  "\x7b" ++ String.intercalate ", " (entries.map fun e => text e.1 ++ ": " ++ e.2) ++ "\x7d"

/-- The fields of a record, as they stand between its braces. -/
def fields (fs : List (String × String)) : String :=
  String.intercalate ", " (fs.map fun f => f.1 ++ ": " ++ f.2)

def record (name : String) (fs : List (String × String)) : String :=
  name ++ " \x7b " ++ fields fs ++ " \x7d"

/-- A record of which only some fields are shown. -/
def openRecord (name : String) (fs : List (String × String)) : String :=
  name ++ " \x7b " ++ fields fs ++ ", .. \x7d"

end Sift.Inspect
