/-!
# Sift.Text.Parser

Readers of a text, for the formats of this library: a reader takes the characters
that are left and gives a value and what it leaves, or refuses.  A choice
`p <|> q` lets `q` start where `p` started.

Repetition needs no bound on the input: `many` stops when its reader refuses or
consumes nothing, so it ends by the length of what is left.
-/

namespace Sift.Text

/-- A reader of the characters that are left. -/
abbrev Parser (α : Type) := StateT (List Char) Option α

namespace Parser

/-! ## Single characters -/

/-- The next character, left in place; `none` at the end. -/
def peek : Parser (Option Char) := fun s => some (s.head?, s)

/-- Any one character of a class. -/
def satisfy (p : Char → Bool) : Parser Char
  | c :: s => if p c then some (c, s) else none
  | [] => none

def char (c : Char) : Parser Unit := do
  let _ ← satisfy (· == c)

def literal : List Char → Parser Unit
  | [] => pure ()
  | c :: cs => do char c; literal cs

def done : Parser Unit
  | [] => some ((), [])
  | _ :: _ => none

/-! ## Runs -/

/-- The longest run of a class, possibly empty. -/
def run (p : Char → Bool) : Parser (List Char) := fun s =>
  some (s.takeWhile p, s.dropWhile p)

/-- The longest run of a class, of at least one character. -/
def run1 (p : Char → Bool) : Parser (List Char) := do
  let c ← satisfy p
  let cs ← run p
  return c :: cs

/-! ## Repetition -/

/-- All values read one after another, and what is left. -/
def manyFrom (p : Parser α) (s : List Char) : List α × List Char :=
  match p s with
  | none => ([], s)
  | some (a, rest) =>
    if rest.length < s.length then
      let (as, left) := manyFrom p rest
      (a :: as, left)
    else
      ([], s)
termination_by s.length

/-- As many values as can be read one after another. -/
def many (p : Parser α) : Parser (List α) := fun s => some (manyFrom p s)

/-- One or more values with a separator between any two. -/
def sepBy1 (p : Parser α) (sep : Parser Unit) : Parser (List α) := do
  let a ← p
  let as ← many (do sep; p)
  return a :: as

/-- The value of a text that is read from end to end. -/
def readAll (p : Parser α) (s : List Char) : Option α :=
  match p s with
  | some (a, []) => some a
  | _ => none

end Parser

end Sift.Text
