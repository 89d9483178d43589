import Sift.Text.Hex
import Sift.Toml.Moment
import Sift.Toml.Number
import Sift.Toml.Tree

/-!
# Sift.Toml.Reader

Reading configuration documents: lines with headers, entries and comments.  Texts
stand in single or double quotes, on one line or, in three quotes, on several.  A
line ends with a line feed, with or without a carriage return before it; within a
text it is a line feed.
-/

namespace Sift.Toml.Reader

open Text (Parser)
open Text.Parser

/-! ## Blanks and comments -/

def isBlank (c : Char) : Bool := c = ' ' || c = '\t'

/-- Characters that show, and the tab. -/
def isPlain (c : Char) : Bool := c = '\t' || (32 ≤ c.toNat && c.toNat ≠ 127)

def blanks : Parser Unit := do
  let _ ← run isBlank

def newline : Parser Unit :=
  char '\n' <|> literal ['\r', '\n']

def comment : Parser Unit := do
  char '#'
  let _ ← run isPlain

/-- What may follow an entry or a header on its line. -/
def lineEnd : Parser Unit := do
  blanks
  comment <|> pure ()
  newline <|> done

/-- Blanks, comments and line ends, as they may stand between the items of a list. -/
def spacing : Parser Unit := do
  let _ ← many (newline <|> comment <|> do let _ ← run1 isBlank)

/-! ## Escapes -/

/-- The character at the place that hexadecimal digits write. -/
def place? (digits : List Char) : Option Char := do
  let n ← Text.ofHex? digits
  if n < 0xd800 || (0xdfff < n && n < 0x110000) then some (Char.ofNat n) else none

/-- The character that a backslash and a letter write. -/
def escaped? (c : Char) : Option Char :=
  if c = '"' || c = '\\' then some c
  else if c = 'b' then some '\x08'
  else if c = 't' then some '\t'
  else if c = 'n' then some '\n'
  else if c = 'f' then some '\x0c'
  else if c = 'r' then some '\r'
  else none

/-- The character that is written after a backslash, and what follows. -/
def afterBackslash? : List Char → Option (Char × List Char)
  | 'u' :: a :: b :: c :: d :: rest => do return (← place? [a, b, c, d], rest)
  | 'U' :: a :: b :: c :: d :: e :: f :: g :: h :: rest => do
    return (← place? [a, b, c, d, e, f, g, h], rest)
  | c :: rest => do return (← escaped? c, rest)
  | [] => none

theorem length_afterBackslash?_lt {s rest : List Char} {c : Char}
    (h : afterBackslash? s = some (c, rest)) : rest.length < s.length := by
  unfold afterBackslash? at h
  split at h <;> simp [Option.bind_eq_some_iff] at h <;> obtain ⟨_, _, _, rfl⟩ := h <;>
    simp only [List.length_cons] <;> omega

/-! ## Texts on one line -/

/-- A text from after its opening double quote, and what follows the closing one. -/
def basic (s : List Char) : Option (List Char × List Char) :=
  match s with
  | [] => none
  | '"' :: rest => some ([], rest)
  | '\\' :: rest =>
    match _h : afterBackslash? rest with
    | none => none
    | some (c, left) => (basic left).map fun r => (c :: r.1, r.2)
  | c :: rest => if isPlain c then (basic rest).map fun r => (c :: r.1, r.2) else none
termination_by s.length
decreasing_by
  · have := length_afterBackslash?_lt _h
    simp only [List.length_cons]
    omega
  · simp

/-- A text in single quotes holds any plain character but that quote. -/
def isLiteral (c : Char) : Bool := isPlain c && c ≠ '\''

def line : Parser String := do
  let opening ← satisfy fun c => c = '"' || c = '\''
  if opening = '"' then
    let cs ← basic
    return String.ofList cs
  else
    let cs ← run isLiteral
    char '\''
    return String.ofList cs

/-! ## Texts on several lines -/

/-- What follows blanks and line ends. -/
def afterLines : List Char → List Char
  | ' ' :: rest => afterLines rest
  | '\t' :: rest => afterLines rest
  | '\n' :: rest => afterLines rest
  | '\r' :: '\n' :: rest => afterLines rest
  | s => s

theorem length_afterLines_le (s : List Char) : (afterLines s).length ≤ s.length := by
  fun_induction afterLines s <;> grind

/-- What follows the line end after a backslash and blanks, up to the next character
that is no blank. -/
def continued? (s : List Char) : Option (List Char) :=
  match s.dropWhile isBlank with
  | '\n' :: rest => some (afterLines rest)
  | '\r' :: '\n' :: rest => some (afterLines rest)
  | _ => none

theorem length_continued?_le {s rest : List Char} (h : continued? s = some rest) :
    rest.length ≤ s.length := by
  have hd := (List.dropWhile_sublist isBlank (l := s)).length_le
  unfold continued? at h
  split at h
  · rename_i t ht
    have := length_afterLines_le t
    simp only [Option.some.injEq] at h
    rw [ht, List.length_cons] at hd
    rw [← h]
    omega
  · rename_i t ht
    have := length_afterLines_le t
    simp only [Option.some.injEq] at h
    rw [ht, List.length_cons, List.length_cons] at hd
    rw [← h]
    omega
  · simp at h

/-- Up to two quotes in front of the closing three belong to the text. -/
def closed (quote : Char) : List Char → List Char × List Char
  | c :: d :: rest =>
    if c = quote then
      if d = quote then ([quote, quote], rest) else ([quote], d :: rest)
    else
      ([], c :: d :: rest)
  | [c] => if c = quote then ([quote], []) else ([], [c])
  | [] => ([], [])

/-- A text from after its opening three quotes, and what follows the closing three.
Between double quotes a backslash escapes a character or the end of a line. -/
def several (quote : Char) (s : List Char) : Option (List Char × List Char) :=
  match s with
  | [] => none
  | '\r' :: '\n' :: rest => (several quote rest).map fun r => ('\n' :: r.1, r.2)
  | c :: rest =>
    if c = quote && rest.take 2 = [quote, quote] then
      some (closed quote (rest.drop 2))
    else if c = '\\' && quote = '"' then
      match _h : continued? rest with
      | some left => several quote left
      | none =>
        match _h' : afterBackslash? rest with
        | none => none
        | some (e, left) => (several quote left).map fun r => (e :: r.1, r.2)
    else if isPlain c || c = '\n' then
      (several quote rest).map fun r => (c :: r.1, r.2)
    else
      none
termination_by s.length
decreasing_by
  · simp only [List.length_cons]; omega
  · have := length_continued?_le _h
    simp only [List.length_cons]
    omega
  · have := length_afterBackslash?_lt _h'
    simp only [List.length_cons]
    omega
  · simp

/-- A text on several lines; a line end right after the opening quotes is left out. -/
def paragraph (quote : Char) : Parser String := do
  literal [quote, quote, quote]
  newline <|> pure ()
  let cs ← several quote
  return String.ofList cs

/-- Any text.  Three quotes always open a text on several lines. -/
def text : Parser String := fun s =>
  if s.take 3 = ['"', '"', '"'] then paragraph '"' s
  else if s.take 3 = ['\'', '\'', '\''] then paragraph '\'' s
  else line s

/-! ## Keys -/

/-- A character of a key without quotes. -/
def isKey (c : Char) : Bool := c.isAlphanum || c = '_' || c = '-'

def name : Parser String := do
  if (← peek).any fun c => c = '"' || c = '\'' then
    line
  else
    return String.ofList (← run1 isKey)

/-- How many lists and tables may stand inside one another, and how many names a key
may have. -/
def deepest : Nat := 79

def key : Parser (List String) := do
  let names ← sepBy1 (do blanks; let n ← name; blanks; return n) (char '.')
  if names.length ≤ deepest then return names else failure

/-- The names on the way, and the last name. -/
def splitKey (names : List String) : Parser (List String × String) :=
  match names.getLast? with
  | some last => return (names.dropLast, last)
  | none => failure

/-! ## Values -/

def scalar : Parser Tree :=
  (do return .text (← text))
  <|> (do literal "true".toList; return .flag true)
  <|> (do literal "false".toList; return .flag false)
  <|> (do Moment.moment; return .measure)
  <|> (do Number.number; return .measure)

/-- A dotted key and its value. -/
def assignment (value : Parser Tree) : Parser Assignment := do
  let (path, last) ← splitKey (← key)
  char '='
  blanks
  let v ← value
  blanks
  return ⟨path, last, v⟩

/-- A list.  A comma may follow its last item. -/
def list (value : Parser Tree) : Parser Tree := do
  char '['
  spacing
  if (← peek) = some ']' then
    char ']'
    return .list []
  else
    let items ← sepBy1 (do spacing; let v ← value; spacing; return v) (char ',')
    char ',' <|> pure ()
    spacing
    char ']'
    return .list items

def braces (value : Parser Tree) : Parser Tree := do
  char '\x7b'
  blanks
  if (← peek) = some '\x7d' then
    char '\x7d'
    return .table .braces []
  else
    let assignments ← sepBy1 (assignment value) (char ',')
    char '\x7d'
    match enterAll assignments [] with
    | some entries => return .table .braces entries
    | none => failure

/-- A value whose lists and tables nest at most `depth` levels. -/
def value : Nat → Parser Tree
  | 0 => scalar
  | depth + 1 => scalar <|> list (value depth) <|> braces (value depth)

/-! ## Documents -/

def emptyLine : Parser Unit := do
  blanks
  (do comment; newline <|> done) <|> newline

/-- Blanks, comments and line ends before an entry or a header. -/
def emptyLines : Parser Unit := do
  let _ ← many emptyLine
  blanks

/-- Entries on lines of their own. -/
def assignments : Parser (List Assignment) := do
  emptyLines
  many do
    let a ← assignment (value deepest)
    lineEnd
    emptyLines
    return a

def header : Parser (Bool × List String × String) := do
  char '['
  let again ← (do char '['; return true) <|> return false
  let (path, last) ← splitKey (← key)
  char ']'
  if again then char ']'
  lineEnd
  return (again, path, last)

/-- A header and the entries under it. -/
def titled : Parser Section := do
  let (again, path, last) ← header
  return ⟨again, path, last, ← assignments⟩

end Reader

open Reader Text.Parser in
/-- The document that a text writes.  A byte order mark at its start is left out. -/
def read (s : String) : Option Toml := do
  let cs := match s.toList with
    | '\ufeff' :: rest => rest
    | cs => cs
  let (top, sections) ← readAll (do
    let top ← assignments
    let sections ← many titled
    return (top, sections)) cs
  assemble top sections

end Sift.Toml
