import Sift.Proofs.Plan.Clauses

/-!
# Sift.Proofs.Scope.Program

Everything that a host can do with a query.  A host asks for conditions and for related
rows in any order, goes on in the same way inside a related scope, and may give up at any
point.  It sees whether a related scope was given up, and may then go on all the same.

What a program records is said by recursion on its steps, without any query: a related
scope that is given up leaves nothing behind.

Main statements:

* `run_build` — a program leaves behind what was there and what it records, whatever its
  outcome is;
* `nested_clauses` — every related scope that it records lies one level below the scope
  around it.
-/

namespace Sift

/-- The steps of a host on a query. -/
inductive Scope.Program where
  /-- There is nothing more to ask for. -/
  | done
  /-- Give up. -/
  | fail (e : Fault)
  /-- Ask for a condition. -/
  | condition (c : Condition) (next : Program)
  /-- Ask for a related row.  How the host goes on depends on the outcome inside. -/
  | related (join : Join) (inside : Program) (next : Except Fault Unit → Program)

namespace Scope.Program

/-! ## What a program does and what it records -/

/-- The builder of a program. -/
def build : Program → Builder Unit
  | done => pure ()
  | fail e => throw e
  | condition c next => do Builder.condition c; next.build
  | related join inside next => do
    let outcome ← observing (Builder.related join inside.build)
    (next outcome).build

def outcome : Program → Except Fault Unit
  | done => .ok ()
  | fail e => .error e
  | condition _ next => next.outcome
  | related _ inside next => (next inside.outcome).outcome

/-- The clauses that a program records in a scope over the rows of a frame. -/
def clauses (frame : Frame) : Program → List Clause
  | done => []
  | fail _ => []
  | condition c next => .condition c :: next.clauses frame
  | related join inside next =>
    match inside.outcome with
    | .ok () =>
      .related join (frame.related join) (inside.clauses (frame.related join)) ::
        (next (.ok ())).clauses frame
    | .error e => (next (.error e)).clauses frame

/-- The query that a program makes out of one for all rows of a table. -/
def reached (p : Program) (dialect : Dialect) (table : String) : Scope :=
  ((Scope.root dialect table).run p.build).2

/-! ## Running -/

/-- To observe a program is to run it and go on. -/
theorem run_observing (s : Scope) (b : Builder Unit) :
    s.run (observing b) = (.ok (s.run b).1, (s.run b).2) := by
  simp only [Scope.run, observing, ExceptT.run, StateT.run, tryCatch, tryCatchThe,
    MonadExceptOf.tryCatch, ExceptT.tryCatch, ExceptT.mk, bind, ExceptT.bind, StateT.bind]
  cases b s with
  | mk r t => cases r <;> rfl

/-- A program leaves behind what was there and what it records. -/
theorem run_build (p : Program) (s : Scope) :
    s.run p.build = (p.outcome, s.extend (p.clauses s.frame)) := by
  induction p generalizing s with
  | done =>
      rw [build, Scope.run_pure, clauses, Scope.extend_nil]
      rfl
  | fail e =>
      rw [build, Scope.run_throw, clauses, Scope.extend_nil]
      rfl
  | condition c next ih =>
      rw [build, Scope.run_bind, Scope.run_condition]
      simp only [ih]
      exact Prod.ext rfl (Scope.extend_extend s [.condition c] _)
  | related join inside next ihinside ihnext =>
      have hinside := ihinside ⟨s.frame.related join, []⟩
      rw [build, Scope.run_bind, run_observing]
      cases hout : inside.outcome with
      | ok u =>
          rw [hout] at hinside
          rw [Scope.run_related_ok hinside]
          simp only [ihnext, outcome, clauses, hout]
          exact Prod.ext rfl (Scope.extend_extend s [_] _)
      | error e =>
          rw [hout] at hinside
          rw [Scope.run_related_error hinside]
          simp only [ihnext, outcome, clauses, hout]

/-- A program leads to the scope of its clauses. -/
theorem reached_eq (p : Program) (dialect : Dialect) (table : String) :
    p.reached dialect table = ⟨.root dialect table, p.clauses (.root dialect table)⟩ := by
  rw [reached, run_build]
  rfl

end Scope.Program

/-! ## Frames -/

mutual

/-- Every related scope in a clause about the rows of a frame is over the rows that its
join reaches from there. -/
def Clause.Nested (frame : Frame) : Clause → Prop
  | .condition _ => True
  | .related join inner clauses => inner = frame.related join ∧ Clause.NestedEach inner clauses

/-- So is every related scope in some clauses. -/
def Clause.NestedEach (frame : Frame) : List Clause → Prop
  | [] => True
  | c :: cs => c.Nested frame ∧ Clause.NestedEach frame cs

end

/-- Its clauses are nested as their joins and levels say. -/
theorem Scope.Program.nested_clauses (p : Program) (frame : Frame) :
    Clause.NestedEach frame (p.clauses frame) := by
  induction p generalizing frame with
  | done => exact trivial
  | fail e => exact trivial
  | condition c next ih =>
      rw [clauses, Clause.NestedEach]
      exact ⟨trivial, ih frame⟩
  | related join inside next ihinside ihnext =>
      rw [clauses]
      split
      · rw [Clause.NestedEach, Clause.Nested]
        exact ⟨⟨rfl, ihinside _⟩, ihnext _ frame⟩
      · exact ihnext _ frame

/-! ## Conditions -/

mutual

/-- The conditions in a clause, from the left. -/
def Clause.conditions : Clause → List Condition
  | .condition c => [c]
  | .related _ _ clauses => Clause.conditionsOf clauses

def Clause.conditionsOf : List Clause → List Condition
  | [] => []
  | c :: cs => c.conditions ++ Clause.conditionsOf cs

end

end Sift
