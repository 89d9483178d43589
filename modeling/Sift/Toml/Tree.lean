import Sift.Toml

/-!
# Sift.Toml.Tree

Documents while they are put together.  A table remembers how it came about, since
that decides what may still be added to it:

* a table in braces is finished where it stands;
* a table with a header of its own takes headers below it, but no dotted keys from
  the table around it;
* a table that lies on the way to a header may later get a header of its own, and
  moves to the end of the table around it then;
* a table that lies on the way of a dotted key takes more dotted keys.
-/

namespace Sift.Toml

/-- How a table came about. -/
inductive Origin where
  /-- In braces. -/
  | braces
  /-- By a header of its own. -/
  | header
  /-- On the way to a header. -/
  | passed
  /-- On the way of a dotted key. -/
  | dotted
deriving DecidableEq, Repr

/-- A part of a document that is being put together. -/
inductive Tree where
  | text (s : String)
  | flag (b : Bool)
  | measure
  | list (items : List Tree)
  | table (origin : Origin) (entries : List (String × Tree))
  /-- Tables under one repeated header, the oldest first. -/
  | tables (rows : List (List (String × Tree)))

/-- The entries of a table. -/
abbrev Entries := List (String × Tree)

mutual

/-- The finished document. -/
def Tree.finish : Tree → Toml
  | .text s => .text s
  | .flag b => .flag b
  | .measure => .measure
  | .list items => .list (finishItems items)
  | .table _ entries => .table (finishEntries entries)
  | .tables rows => .list (finishRows rows)

def finishItems : List Tree → List Toml
  | [] => []
  | t :: ts => t.finish :: finishItems ts

def finishEntries : List (String × Tree) → List (String × Toml)
  | [] => []
  | (key, t) :: es => (key, t.finish) :: finishEntries es

def finishRows : List (List (String × Tree)) → List Toml
  | [] => []
  | row :: rows => .table (finishEntries row) :: finishRows rows

end

/-! ## Going down -/

/-- A change to the entries of a table of some origin, which may be refused. -/
abbrev Change := Origin → Entries → Option Entries

/-- Change the table under a key; without one, a new table comes about.  Dotted keys
do not reach into a table with a header; of tables under a repeated header the last
is meant. -/
def descend (dotted : Bool) (key : String) (change : Change) (entries : Entries) :
    Option Entries :=
  match Keyed.get? entries key with
  | none => do
    let origin := if dotted then Origin.dotted else .passed
    return Keyed.put entries key (.table origin (← change origin []))
  | some (.table origin inner) => do
    if origin = .braces || (dotted && origin = .header) then
      none
    else
      return Keyed.put entries key (.table origin (← change origin inner))
  | some (.tables rows) => do
    let last ← rows.getLast?
    return Keyed.put entries key (.tables (rows.dropLast ++ [← change .header last]))
  | some _ => none

/-- Change the table at the end of a path. -/
def within (dotted : Bool) : List String → Change → Change
  | [], change => change
  | key :: keys, change => fun _ entries => descend dotted key (within dotted keys change) entries

/-! ## Entering -/

/-- An entry with a dotted key: the names on the way, and the last name. -/
structure Assignment where
  path : List String
  key : String
  value : Tree

/-- Enter a value under a dotted key.  A table that only lies on the way to a header
takes no entry from outside. -/
def Assignment.enter (a : Assignment) : Change :=
  within true a.path fun origin entries =>
    if (a.path.isEmpty && origin = .dotted) || (!a.path.isEmpty && origin ≠ .dotted) then
      none
    else if (Keyed.keys entries).contains a.key then
      none
    else
      some (entries ++ [(a.key, a.value)])

/-- Enter values in turn. -/
def enterAll (assignments : List Assignment) (entries : Entries) : Option Entries :=
  assignments.foldlM (fun es a => a.enter .header es) entries

/-- A header and the entries under it. -/
structure Section where
  /-- Whether the header may be repeated. -/
  repeated : Bool
  path : List String
  key : String
  assignments : List Assignment

/-- Enter a section. -/
def Section.enter (s : Section) : Change :=
  within false s.path fun _ entries =>
    match s.repeated, Keyed.get? entries s.key with
    | false, none => do
      return entries ++ [(s.key, .table .header (← enterAll s.assignments []))]
    | false, some (.table .passed inner) => do
      return entries.filter (·.1 ≠ s.key)
        ++ [(s.key, .table .header (← enterAll s.assignments inner))]
    | true, none => do
      return entries ++ [(s.key, .tables [← enterAll s.assignments []])]
    | true, some (.tables rows) => do
      return Keyed.put entries s.key (.tables (rows ++ [← enterAll s.assignments []]))
    | _, _ => none

/-- The document of the entries before the first header and the sections after it. -/
def assemble (top : List Assignment) (sections : List Section) : Option Toml := do
  let entries ← enterAll top []
  let all ← sections.foldlM (fun es s => s.enter .header es) entries
  return .table (finishEntries all)

end Sift.Toml
