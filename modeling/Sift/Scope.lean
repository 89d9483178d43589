import Sift.Condition
import Sift.Dialect
import Sift.Fault
import Sift.Relation

/-!
# Sift.Scope

Queries under construction.  A scope stands for the rows of one table; its clauses
all have to hold of a row.  A clause is a condition on the row itself, or asks for a
related row that satisfies clauses of its own.

Scopes are built by `Builder` programs, which may fail.  A related scope works like
a transaction: if the program inside it fails, nothing of it is recorded.

Main statements:

* `run_bind` — a program goes on in the scope that its first part leaves behind;
* `run_condition`, `run_related_ok`, `run_related_error` — what the steps of a
  builder leave behind;
* `run_apply` — a condition is recorded unchanged by the step for its kind.
-/

namespace Sift

/-- The rows a scope is about. -/
structure Frame where
  dialect : Dialect
  table : String
  /-- The name given to the table inside a related scope. -/
  alias? : Option String
  /-- How many related scopes this one lies in. -/
  depth : Nat
deriving DecidableEq, Repr

namespace Frame

/-- The rows of a table as such. -/
def root (dialect : Dialect) (table : String) : Frame := ⟨dialect, table, none, 0⟩

/-- The rows that a join reaches from here. -/
def related (f : Frame) (join : Join) : Frame :=
  ⟨f.dialect, join.relatedTable, some ("r" ++ toString (f.depth + 1)), f.depth + 1⟩

/-- What columns are qualified with. -/
def qualifier (f : Frame) : String := f.alias?.getD f.table

end Frame

/-- A clause of a scope. -/
inductive Clause where
  /-- A condition on the row. -/
  | condition (c : Condition)
  /-- There is a related row that satisfies the clauses. -/
  | related (join : Join) (frame : Frame) (clauses : List Clause)
deriving Repr

/-- A query under construction. -/
structure Scope where
  frame : Frame
  clauses : List Clause
deriving Repr

namespace Scope

def root (dialect : Dialect) (table : String) : Scope := ⟨.root dialect table, []⟩

def push (s : Scope) (c : Clause) : Scope := { s with clauses := s.clauses ++ [c] }

def isEmpty (s : Scope) : Bool := s.clauses.isEmpty

end Scope

/-! ## Nesting -/

mutual

/-- How many related scopes lie inside one another in a clause. -/
def Clause.nesting : Clause → Nat
  | .condition _ => 0
  | .related _ _ clauses => 1 + Clause.deepest clauses

def Clause.deepest : List Clause → Nat
  | [] => 0
  | c :: cs => max c.nesting (Clause.deepest cs)

end

/-- How many related scopes lie inside one another. -/
def Scope.nesting (s : Scope) : Nat := Clause.deepest s.clauses

/-! ## Building -/

/-- A program that adds to a scope and may fail. -/
abbrev Scope.Builder (α : Type) := ExceptT Fault (StateM Scope) α

namespace Scope

/-- What a program answers, and the scope it leaves behind. -/
def run (s : Scope) (p : Builder α) : Except Fault α × Scope := StateT.run (ExceptT.run p) s

namespace Builder

def condition (c : Condition) : Builder Unit := modify (·.push (.condition c))

/-- Ask for a related row that satisfies what the program inside asks for.  If that
program fails, so does this one, and the scope stays as it was. -/
def related (join : Join) (inside : Builder Unit) : Builder Unit :=
  ExceptT.mk fun s =>
    match Scope.run ⟨s.frame.related join, []⟩ inside with
    | (.ok (), inner) => (.ok (), s.push (.related join inner.frame inner.clauses))
    | (.error e, _) => (.error e, s)

def dialect : Builder Dialect := do return (← get).frame.dialect

/-! ### Conditions by their kinds -/

def compare (column : String) (op : Comparison) (value : Value) : Builder Unit :=
  condition (.compare column op value)

/-- Ask that a column is one of some values, or none of them. -/
def among (column : String) (values : List Value) (negated : Bool) : Builder Unit :=
  condition (.among column values negated)

def null (column : String) (negated : Bool) : Builder Unit := condition (.null column negated)

/-- Ask that a column lies between two values, or outside of them. -/
def between (column : String) (low high : Value) (negated : Bool) : Builder Unit :=
  condition (.between column low high negated)

def like (column pattern : String) (negated : Bool) : Builder Unit :=
  condition (.like column pattern negated)

/-- Ask for what a template says of a column. -/
def raw (column template : String) (params : List Value) : Builder Unit :=
  condition (.raw column template params)

end Builder

end Scope

/-- Ask for a condition, by the step for its kind. -/
def Condition.apply : Condition → Scope.Builder Unit
  | .compare column op value => Scope.Builder.compare column op value
  | .among column values negated => Scope.Builder.among column values negated
  | .null column negated => Scope.Builder.null column negated
  | .between column low high negated => Scope.Builder.between column low high negated
  | .like column pattern negated => Scope.Builder.like column pattern negated
  | .raw column template params => Scope.Builder.raw column template params

namespace Scope

open Builder (condition related)

@[simp] theorem run_pure (s : Scope) (a : α) : s.run (pure a) = (.ok a, s) := rfl

@[simp] theorem run_throw (s : Scope) (e : Fault) :
    s.run (throw e : Builder α) = (.error e, s) := rfl

/-- A program goes on in the scope that its first part leaves behind. -/
theorem run_bind (s : Scope) (p : Builder α) (next : α → Builder β) :
    s.run (p >>= next) =
      match s.run p with
      | (.ok a, t) => t.run (next a)
      | (.error e, t) => (.error e, t) := by
  simp only [run, ExceptT.run, StateT.run, bind, ExceptT.bind, ExceptT.mk, StateT.bind]
  cases p s with
  | mk r t => cases r <;> rfl

@[simp] theorem run_condition (s : Scope) (c : Condition) :
    s.run (condition c) = (.ok (), s.push (.condition c)) := rfl

/-- A condition is recorded as it is, whatever its kind. -/
@[simp] theorem run_apply (s : Scope) (c : Condition) :
    s.run c.apply = (.ok (), s.push (.condition c)) := by
  cases c <;> rfl

theorem run_related_ok {s inner : Scope} {join : Join} {inside : Builder Unit}
    (h : Scope.run ⟨s.frame.related join, []⟩ inside = (.ok (), inner)) :
    s.run (related join inside) =
      (.ok (), s.push (.related join inner.frame inner.clauses)) := by
  simp [run, related, ExceptT.run, ExceptT.mk, StateT.run] at h ⊢
  rw [h]

theorem run_related_error {s inner : Scope} {join : Join} {inside : Builder Unit} {e : Fault}
    (h : Scope.run ⟨s.frame.related join, []⟩ inside = (.error e, inner)) :
    s.run (related join inside) = (.error e, s) := by
  simp [run, related, ExceptT.run, ExceptT.mk, StateT.run] at h ⊢
  rw [h]

end Scope

end Sift
