import Sift.Proofs.Scope.Program

/-!
# Sift.Proofs.Scope.Transactions

Related scopes as transactions.  What a host records inside a related scope is kept exactly
if its steps there go through, to any depth; whether they do or not, nothing that was
recorded before changes, and the host may go on either way.

Main statements:

* `clauses_andThen`, `outcome_andThen` — a program that goes on adds behind what is there;
* `framed_of_nested` — the rows of related scopes, level by level;
* `transactional` — so every program records what the reading of its steps says.
-/

namespace Sift

/-! ## The rows of related scopes -/

mutual

/-- Every related scope in a clause is over the related table of its join, in the dialect
of the whole, one level below the scope around it and named after its level. -/
def Clause.Framed (dialect : Dialect) (depth : Nat) : Clause → Prop
  | .condition _ => True
  | .related join frame clauses =>
    frame.dialect = dialect ∧ frame.depth = depth + 1 ∧
      frame.alias? = some ("r" ++ toString frame.depth) ∧ frame.table = join.relatedTable ∧
      Clause.FramedEach dialect frame.depth clauses

/-- So is every related scope in some clauses. -/
def Clause.FramedEach (dialect : Dialect) (depth : Nat) : List Clause → Prop
  | [] => True
  | c :: cs => c.Framed dialect depth ∧ Clause.FramedEach dialect depth cs

end

theorem Clause.framed_of_nested : {frame : Frame} → {cs : List Clause} →
    NestedEach frame cs → FramedEach frame.dialect frame.depth cs
  | _, [], _ => trivial
  | _, .condition _ :: _, h => ⟨trivial, framed_of_nested h.2⟩
  | frame, .related join _ _ :: _, h => by
      obtain ⟨⟨rfl, hinner⟩, hrest⟩ := h
      exact ⟨⟨rfl, rfl, rfl, rfl, framed_of_nested hinner⟩, framed_of_nested hrest⟩

namespace Scope.Program

/-! ## Going on -/

/-- Go on when a program has ended, in view of its outcome. -/
def andThen : Program → (Except Fault Unit → Program) → Program
  | done, next => next (.ok ())
  | fail e, next => next (.error e)
  | condition c rest, next => condition c (rest.andThen next)
  | related join inside rest, next => related join inside fun outcome => (rest outcome).andThen next

theorem outcome_andThen (p : Program) (next : Except Fault Unit → Program) :
    (p.andThen next).outcome = (next p.outcome).outcome := by
  induction p with
  | done => rfl
  | fail e => rfl
  | condition c rest ih => exact ih
  | related join inside rest _ ih => exact ih inside.outcome

/-- A program that goes on adds behind what is there. -/
theorem clauses_andThen (p : Program) (next : Except Fault Unit → Program) (frame : Frame) :
    (p.andThen next).clauses frame = p.clauses frame ++ (next p.outcome).clauses frame := by
  induction p with
  | done => rfl
  | fail e => rfl
  | condition c rest ih => rw [andThen, clauses, clauses, ih, List.cons_append, outcome]
  | related join inside rest _ ih =>
      rw [andThen, clauses, clauses, outcome]
      cases inside.outcome with
      | ok u => exact congrArg _ (ih (.ok u))
      | error e => exact ih (.error e)

/-! ## Transactions -/

/-- Steps inside a related scope are recorded together, or not at all. -/
theorem run_related_build (p : Program) (s : Scope) (join : Join) :
    s.run (Builder.related join p.build) =
      match p.outcome with
      | .ok () => (.ok (), s.push
          (.related join (s.frame.related join) (p.clauses (s.frame.related join))))
      | .error e => (.error e, s) := by
  have hinside := run_build p ⟨s.frame.related join, []⟩
  cases hout : p.outcome with
  | ok u =>
      rw [hout] at hinside
      exact run_related_ok hinside
  | error e =>
      rw [hout] at hinside
      exact run_related_error hinside

/-- How a program leaves a scope, and what it makes of a related one. -/
structure Transactional (p : Program) (s : Scope) : Prop where
  /-- It ends as its steps say and leaves what they record behind what was there, where a
  related scope is recorded exactly if the steps inside it go through. -/
  run : s.run p.build = (p.outcome, ⟨s.frame, s.clauses ++ p.clauses s.frame⟩)
  /-- Inside a related scope its steps are recorded in one clause if they go through; if they
  do not, the host sees the fault and nothing of them is recorded. -/
  inside : ∀ join, s.run (Builder.related join p.build) =
    match p.outcome with
    | .ok () => (.ok (), ⟨s.frame, s.clauses ++
        [.related join (s.frame.related join) (p.clauses (s.frame.related join))]⟩)
    | .error e => (.error e, s)
  /-- The step for the kind of a condition asks for it as any step for a condition does. -/
  asked : ∀ c : Condition, s.run (do c.apply; p.build) = s.run (condition c p).build
  /-- However the host goes on, what has been recorded stays as it is. -/
  kept : ∀ next, (s.run p.build).2.clauses <+: (s.run (p.andThen next).build).2.clauses
  /-- The rows of every related scope that is recorded follow from its join and its level. -/
  framed : Clause.FramedEach s.frame.dialect s.frame.depth (p.clauses s.frame)

/-- Related scopes are transactions, for whatever host on whatever scope. -/
theorem transactional (p : Program) (s : Scope) : p.Transactional s where
  run := run_build p s
  inside := run_related_build p s
  asked c := by rw [build, Scope.run_bind, Scope.run_bind, Scope.run_apply, Scope.run_condition]
  kept next := by
    rw [run_build, run_build, clauses_andThen]
    exact ⟨(next p.outcome).clauses s.frame, List.append_assoc ..⟩
  framed := Clause.framed_of_nested (nested_clauses p s.frame)

/-- Inside a related scope that is given up neither a condition is recorded, nor a scope
further down that went through; the host goes on. -/
example (join : Join) (c d : Condition) (e : Fault) (s : Scope) :
    s.run (related join (condition c (related join done fun _ => fail e))
      fun _ => condition d done).build = (.ok (), s.push (.condition d)) := rfl

end Scope.Program

end Sift
