import Sift.Filter
import Sift.Path
import Sift.Plan
import Sift.Registry

/-!
# Sift.Resolver

From a filter to a plan.  A resolver walks down a top-level key of a filter with a
`Cursor`, which keeps the model it stands on, the path to it, and the models it has
left behind.  A key that is a registered symbol is an operator on the innermost
field; any other key is a field of its own, and the field above it is followed as a
relation.

Before the walk a filter is checked for an operator that can be reached; during the
walk every field is checked against its model.  Nothing is added to a query unless
the whole filter resolves.

Main statements:

* `Walk.run_bind` — a walk goes on where its first part ends;
* `Walk.run_below`, `Walk.run_across` — a step down a name or across a relation comes
  back from it, however it ends.
-/

namespace Sift

/-! ## The cursor -/

/-- Where a walk stands and what it has gathered. -/
structure Cursor (M : Type) where
  /-- The model whose fields are looked at. -/
  current : M
  /-- The models left behind, the first one first: each is the model that the
  relation at its place in the path belongs to. -/
  owners : List M
  path : Path
  plan : Plan M
  events : List Event

/-- A step of a walk.  A step that fails leaves the cursor where it stood then. -/
abbrev Walk (M α : Type) := ExceptT Fault (StateM (Cursor M)) α

namespace Cursor

variable {M : Type}

/-- At a model, before the first step. -/
def start (m : M) : Cursor M := ⟨m, [], .empty, .empty, []⟩

/-- Go down by a name. -/
def push (c : Cursor M) (segment : String) : Cursor M := { c with path := c.path.push segment }

/-- Go back by a name. -/
def pop (c : Cursor M) : Cursor M := { c with path := c.path.pop }

/-- Go over to a related model. -/
def enter (c : Cursor M) (m : M) : Cursor M :=
  { c with current := m, owners := c.owners ++ [c.current] }

/-- Come back from a related model. -/
def leave (c : Cursor M) : Cursor M :=
  match c.owners.getLast? with
  | some owner => { c with current := owner, owners := c.owners.dropLast }
  | none => c

@[simp] theorem path_enter (c : Cursor M) (m : M) : (c.enter m).path = c.path := rfl

@[simp] theorem leave_enter (c : Cursor M) (m : M) : (c.enter m).leave = c := by
  simp [enter, leave]

@[simp] theorem pop_push (c : Cursor M) (segment : String) : (c.push segment).pop = c := by
  simp [push, pop]

end Cursor

namespace Walk

variable {M α β : Type}

/-- What a step answers, and where it leaves the cursor. -/
def run (w : Walk M α) (c : Cursor M) : Except Fault α × Cursor M := StateT.run (ExceptT.run w) c

/-- A step that asks a question about where the cursor stands. -/
def asks (question : Cursor M → Except Fault α) : Walk M α :=
  ExceptT.mk fun c => (question c, c)

/-- Do something else with the cursor, whether the step succeeds or fails. -/
def afterwards (w : Walk M α) (restore : Cursor M → Cursor M) : Walk M α :=
  ExceptT.mk fun c => let (r, d) := w.run c; (r, restore d)

/-- A step one name further down. -/
def below (segment : String) (w : Walk M α) : Walk M α := do
  modify (·.push segment)
  w.afterwards Cursor.pop

/-- A step on the model that a relation leads to. -/
def across (g : ModelGraph M) (relation : String) (w : Walk M α) : Walk M α := do
  let c ← get
  match g.relation c.current relation with
  | none => throw (g.noField c.current relation)
  | some (m, _) =>
    set (c.enter m)
    w.afterwards Cursor.leave

@[simp] theorem run_pure (a : α) (c : Cursor M) : run (pure a) c = (.ok a, c) := rfl

@[simp] theorem run_throw (e : Fault) (c : Cursor M) :
    run (throw e : Walk M α) c = (.error e, c) := rfl

@[simp] theorem run_asks (question : Cursor M → Except Fault α) (c : Cursor M) :
    run (asks question) c = (question c, c) := rfl

/-- A walk goes on where its first part ends. -/
theorem run_bind (w : Walk M α) (next : α → Walk M β) (c : Cursor M) :
    run (w >>= next) c =
      match run w c with
      | (.ok a, d) => run (next a) d
      | (.error e, d) => (.error e, d) := by
  simp only [run, ExceptT.run, StateT.run, bind, ExceptT.bind, ExceptT.mk, StateT.bind]
  cases w c with
  | mk r d => cases r <;> rfl

/-- A step further down starts one name further down, and comes back by a name. -/
theorem run_below (segment : String) (w : Walk M α) (c : Cursor M) :
    run (below segment w) c = ((run w (c.push segment)).1, (run w (c.push segment)).2.pop) := rfl

/-- A step across a relation starts on the related model, and comes back. -/
theorem run_across {g : ModelGraph M} {relation : String} {c : Cursor M} {m : M} {join : Join}
    (h : g.relation c.current relation = some (m, join)) (w : Walk M α) :
    run (across g relation w) c = ((run w (c.enter m)).1, (run w (c.enter m)).2.leave) := by
  have hw : run (across g relation w) c =
      run (match g.relation c.current relation with
        | none => throw (g.noField c.current relation)
        | some (m, _) => (do set (c.enter m); w.afterwards Cursor.leave)) c := rfl
  rw [hw, h]
  rfl

end Walk

/-! ## Resolving -/

/-- Resolves filters by a registry of operators.  With `tracing`, every operator that
has become a condition is reported. -/
structure Resolver where
  registry : Registry
  tracing : Bool

namespace Resolver

variable {M : Type}

def noOperator (r : Resolver) : Fault := .noOperator r.registry.symbols

def hasOperator (r : Resolver) (entries : List (String × Filter)) : Bool :=
  entries.any fun e => r.registry.contains e.1

mutual

/-- An operator can be reached: a group has one among its keys, or one can be reached
in its first entry. -/
def validate (r : Resolver) : Filter → Except Fault Unit
  | .leaf _ => .error r.noOperator
  | .group entries => if r.hasOperator entries then .ok () else validateFirst r entries

/-- An operator can be reached in the first entry. -/
def validateFirst (r : Resolver) : List (String × Filter) → Except Fault Unit
  | [] => .error r.noOperator
  | (_, f) :: _ => validate r f

end

/-- Turn an operator on the innermost field into a condition of the plan. -/
def applyLeaf (r : Resolver) (g : ModelGraph M) (dialect : Dialect) (e : Registry.Entry)
    (f : Filter) : Walk M Unit := do
  let c ← get
  match c.path.splitLast? with
  | none => throw (g.noField c.current e.symbol)
  | some (column, relations) =>
    match f.arguments? with
    | none => throw (.invalidArguments e.symbol .nested)
    | some arguments =>
      let condition ← liftM (e.build column arguments dialect)
      let event := Event.builtLeaf column e.symbol relations.length
      set { c with
        plan := c.plan.insert relations c.owners condition
        events := c.events ++ if r.tracing then [event] else [] }

/-- The field may be filtered on the current model, by the key below it. -/
def checkEntry (g : ModelGraph M) (field key : String) : Walk M Unit :=
  Walk.asks fun c => do
    g.checkField c.current field
    g.checkOperator c.current field key

mutual

/-- Resolve a key and what stands under it. -/
def dispatch (r : Resolver) (g : ModelGraph M) (dialect : Dialect) (key : String) :
    Filter → Walk M Unit
  | .leaf v =>
    match r.registry.lookup key with
    | some e => applyLeaf r g dialect e (.leaf v)
    | none => throw r.noOperator
  | .group entries =>
    match r.registry.lookup key with
    | some e => applyLeaf r g dialect e (.group entries)
    | none => if entries.isEmpty then throw r.noOperator else entriesUnder r g dialect key entries

/-- Resolve the entries under a field in turn. -/
def entriesUnder (r : Resolver) (g : ModelGraph M) (dialect : Dialect) (field : String) :
    List (String × Filter) → Walk M Unit
  | [] => pure ()
  | (key, f) :: rest => do
    checkEntry g field key
    Walk.below field <|
      if r.registry.contains key then
        dispatch r g dialect key f
      else
        Walk.across g field (dispatch r g dialect key f)
    entriesUnder r g dialect field rest

end

/-- The plan of a top-level key. -/
def resolve (r : Resolver) (g : ModelGraph M) (m : M) (dialect : Dialect) (field : String)
    (f : Filter) : Reported Fault (Plan M) := do
  Reported.report (.resolving (g.name m) field dialect.name)
  Reported.ofExcept (r.validate f)
  let (outcome, c) := Walk.run (r.dispatch g dialect field f) (Cursor.start m)
  ⟨c.events, outcome.map fun _ => c.plan⟩

/-! ## Applying to scopes -/

/-- What became of a scope: what was reported, and the outcome with the scope as it is
now. -/
structure Applied where
  events : List Event
  outcome : Except Fault Unit
  scope : Scope

/-- Add plans to a scope, in turn. -/
def addPlans (g : ModelGraph M) (plans : List (Plan M)) : Scope.Builder Unit :=
  plans.forM fun p => p.apply g

/-- Add plans to a scope once they have been resolved. -/
def addResolved (g : ModelGraph M) (s : Scope) (plans : Reported Fault (List (Plan M))) : Applied :=
  match plans.outcome with
  | .error e => ⟨plans.events, .error e, s⟩
  | .ok ps =>
    let (outcome, t) := s.run (addPlans g ps)
    ⟨plans.events, outcome, t⟩

/-- Resolve a top-level key and add what it asks for to a scope. -/
def apply (r : Resolver) (g : ModelGraph M) (m : M) (s : Scope) (field : String) (f : Filter) :
    Applied :=
  addResolved g s do
    let p ← r.resolve g m s.frame.dialect field f
    return [p]

/-- Resolve the keys of a group in turn, up to the first that fails. -/
def resolveEach (r : Resolver) (g : ModelGraph M) (m : M) (dialect : Dialect) :
    List (String × Filter) → Reported Fault (List (Plan M))
  | [] => pure []
  | (field, f) :: rest => do
    let p ← r.resolve g m dialect field f
    let ps ← r.resolveEach g m dialect rest
    return p :: ps

/-- Resolve all keys of a filter, and only then add what they ask for to a scope. -/
def applyAll (r : Resolver) (g : ModelGraph M) (m : M) (s : Scope) (f : Filter) : Applied :=
  addResolved g s <|
    match f.entries? with
    | none => throw r.noOperator
    | some entries => r.resolveEach g m s.frame.dialect entries

end Resolver

end Sift
