import Sift.Keyed

/-!
# Sift.Toml

The documents that configurations are written in: texts, flags, lists and tables.
Numbers, dates and times are the value of no setting; they can only stand in a list
beyond its last setting, and all that is kept of them is their place.

`Toml.settings?` takes the settings of a record from a table, by name, or from a
list, by position.
-/

namespace Sift

/-- A part of a configuration document. -/
inductive Toml where
  | text (s : String)
  | flag (b : Bool)
  /-- A number, a date or a time. -/
  | measure
  | list (items : List Toml)
  | table (entries : List (String × Toml))
deriving Repr

namespace Toml

/-! ## Parts by kind -/

def text? : Toml → Option String
  | .text s => some s
  | _ => none

def flag? : Toml → Option Bool
  | .flag b => some b
  | _ => none

def list? : Toml → Option (List Toml)
  | .list items => some items
  | _ => none

def entries? : Toml → Option (List (String × Toml))
  | .table entries => some entries
  | _ => none

def texts? (t : Toml) : Option (List String) := do (← t.list?).mapM text?

/-- A table whose entries all have one form. -/
def tableOf? (form : Toml → Option α) (t : Toml) : Option (Keyed α) := do
  (← t.entries?).mapM fun e => return (e.1, ← form e.2)

/-! ## Records -/

/-- The settings of a record, in the order of their names; `none` stands for one that
is left out.  A table gives them by name and may have no other entries.  A list gives
them by position and has at least `least` of them; what it has beyond the last setting is
left out. -/
def settings? (names : List String) (least : Nat) : Toml → Option (List (Option Toml))
  | .table entries =>
    if (Keyed.keys entries).all names.contains then
      some (names.map (Keyed.get? entries))
    else
      none
  | .list items =>
    if least ≤ items.length then
      some ((List.range names.length).map fun i => items[i]?)
    else
      none
  | _ => none

/-- A setting that may be left out. -/
def optional? (form : Toml → Option α) : Option Toml → Option (Option α)
  | none => some none
  | some t => (form t).map some

/-- A setting with a default. -/
def orElse? (default : α) (form : Toml → Option α) : Option Toml → Option α
  | none => some default
  | some t => form t

/-- A setting that has to be there. -/
def required? (form : Toml → Option α) (t : Option Toml) : Option α := t.bind form

end Toml

end Sift
