import Sift.Event
import Sift.Operator.Build

/-!
# Sift.Registry

The operators of an engine, each under the symbol that it was registered with, in the
order of registration.  A symbol is registered at most once; one operator may stand
under several symbols.  Symbols are compared exactly.

Registering changes a registry, and what became of it comes back with the outcome.  A
registry can also be narrowed to some of its operators.  Narrowing keeps the order of
the registry and fails on a reference that selects nothing.

Main statements:

* `lookup_eq_some_iff` — a look-up finds what is registered under a symbol;
* `symbol_of_lookup` — and that knows the symbol it is found under.
-/

namespace Sift

/-- A registered operator. -/
structure Registry.Entry where
  symbol : String
  /-- The built-in operator behind the entry; a host's own strategy has none. -/
  kind : Option Operator
  strategy : Strategy

/-- The registered operators by their symbols, oldest first. -/
structure Registry where
  entries : Keyed Registry.Entry
  /-- No symbol is registered twice. -/
  distinct : (Keyed.keys entries).Nodup
  /-- An operator knows the symbol it stands under. -/
  named : ∀ e ∈ entries, e.2.symbol = e.1

namespace Registry

namespace Entry

/-- The condition of the operator on a column. -/
def build (e : Entry) (column : String) (arguments : List Value) (dialect : Dialect) :
    Except Fault Condition :=
  e.strategy ⟨e.symbol, column, arguments, dialect⟩

def inspect (e : Entry) : String :=
  Inspect.openRecord "OperatorEntry"
    [("symbol", Inspect.text e.symbol), ("kind", Inspect.option Operator.label e.kind)]

end Entry

/-! ## Looking up -/

/-- The registered symbols, oldest first. -/
def symbols (r : Registry) : List String := Keyed.keys r.entries

/-- What is registered under a symbol. -/
def lookup (r : Registry) (symbol : String) : Option Entry := Keyed.get? r.entries symbol

def contains (r : Registry) (symbol : String) : Bool := (r.lookup symbol).isSome

def size (r : Registry) : Nat := r.entries.length

/-- A symbol is registered when something stands under it. -/
theorem contains_iff {r : Registry} {symbol : String} :
    r.contains symbol = true ↔ symbol ∈ r.symbols := Keyed.isSome_get?_iff

/-- A look-up finds exactly what is registered under the symbol. -/
theorem lookup_eq_some_iff {r : Registry} {symbol : String} {e : Entry} :
    r.lookup symbol = some e ↔ (symbol, e) ∈ r.entries :=
  ⟨Keyed.mem_of_get?, Keyed.get?_of_mem r.distinct⟩

/-- What is found under a symbol knows that symbol. -/
theorem symbol_of_lookup {r : Registry} {symbol : String} {e : Entry}
    (h : r.lookup symbol = some e) : e.symbol = symbol :=
  r.named _ (lookup_eq_some_iff.mp h)

/-! ## Registering -/

def empty : Registry := ⟨[], List.nodup_nil, nofun⟩

/-- Every built-in operator under its default symbol. -/
def defaults : Registry where
  entries := Operator.all.map fun op => (op.symbol, ⟨op.symbol, some op, op.build⟩)
  distinct := by decide
  named := by simp

/-- What became of a registry: what was reported, and the outcome with the registry as it
is now. -/
structure Changed where
  events : List Event
  outcome : Except Fault Unit
  registry : Registry

/-- Enter an operator under a symbol, unless the symbol is taken. -/
def insert (r : Registry) (symbol : String) (kind : Option Operator) (strategy : Strategy) :
    Changed :=
  if r.contains symbol then
    ⟨[], .error (.duplicateOperator symbol), r⟩
  else
    { events := [.registered symbol kind]
      outcome := .ok ()
      registry :=
        { entries := Keyed.put r.entries symbol ⟨symbol, kind, strategy⟩
          distinct := Keyed.nodup_keys_put _ _ r.distinct
          named := Keyed.forall_mem_put r.named rfl } }

/-- Register a built-in operator under a symbol. -/
def register (r : Registry) (symbol : String) (op : Operator) : Changed :=
  r.insert symbol (some op) op.build

/-- Register a host's own strategy under a symbol. -/
def registerCustom (r : Registry) (symbol : String) (strategy : Strategy) : Changed :=
  r.insert symbol none strategy

/-! ## Narrowing -/

/-- A way to select operators. -/
inductive Reference where
  /-- What is registered under a symbol. -/
  | symbol (s : String)
  /-- A built-in operator under all its symbols. -/
  | kind (op : Operator)
deriving DecidableEq, Repr

/-- What a reference names, for messages. -/
def Reference.name : Reference → String
  | .symbol s => s
  | .kind op => op.symbol

/-- What is registered, as far as it satisfies a test. -/
def restrict (r : Registry) (keep : String × Entry → Bool) : Registry where
  entries := r.entries.filter keep
  distinct := r.distinct.sublist (List.filter_sublist.map Prod.fst)
  named e he := r.named e (List.mem_filter.mp he).1

/-- The symbols that a reference selects: the symbol itself, if it is registered, or those
that the entries of an operator know themselves by. -/
def Reference.symbolsIn (r : Registry) : Reference → List String
  | .symbol s => if r.contains s then [s] else []
  | .kind op => (r.entries.filter fun e => e.2.kind = some op).map (·.2.symbol)

/-- The symbols that references select in turn.  One that selects nothing is unknown. -/
def selection (r : Registry) : List Reference → Except Fault (List String)
  | [] => .ok []
  | ref :: rest =>
    match ref.symbolsIn r with
    | [] => .error (.unknownOperator ref.name)
    | symbols => do
      let more ← r.selection rest
      return symbols ++ more

/-- The registry with what stands under the selected symbols only. -/
def only (r : Registry) (references : List Reference) : Except Fault Registry := do
  let kept ← r.selection references
  return r.restrict fun e => kept.contains e.1

end Registry

end Sift
