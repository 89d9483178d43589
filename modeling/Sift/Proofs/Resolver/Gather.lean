import Sift.Resolver

/-!
# Sift.Proofs.Resolver.Gather

A walk without a cursor.  `Resolver.gather` goes through a filter by recursion alone and
answers with the conditions it meets, each with the relations it lies under, and with the
fault it stops at, if there is one.

Main statements:

* `gathers_dispatch`, `gathers_entriesUnder` — a walk puts in place what is gathered, and
  ends where it started, whether it succeeds or not;
* `resolve_eq` — the plan of a filter is made of what is gathered from it.
-/

namespace Sift

/-! ## Conditions in their places -/

/-- A condition with the relations that lead to its scope, the outermost first, and with
the models that the relations belong to. -/
structure Placement (M : Type) where
  steps : List (String × M)
  /-- The operator that made the condition, and the field it was applied to. -/
  operator : String
  column : String
  condition : Condition

namespace Placement

variable {M : Type}

def relations (p : Placement M) : List String := p.steps.map Prod.fst

def owners (p : Placement M) : List M := p.steps.map Prod.snd

/-- The condition one relation further down. -/
def under (name : String) (owner : M) (p : Placement M) : Placement M :=
  { p with steps := (name, owner) :: p.steps }

/-- What is reported of the condition when its place is `depth` relations down. -/
def event (depth : Nat) (p : Placement M) : Event :=
  .builtLeaf p.column p.operator (depth + p.steps.length)

@[simp] theorem relations_under (name : String) (owner : M) (p : Placement M) :
    (p.under name owner).relations = name :: p.relations := rfl

@[simp] theorem owners_under (name : String) (owner : M) (p : Placement M) :
    (p.under name owner).owners = owner :: p.owners := rfl

@[simp] theorem condition_under (name : String) (owner : M) (p : Placement M) :
    (p.under name owner).condition = p.condition := rfl

/-- Below a relation an operator is reported one level deeper. -/
theorem event_under (depth : Nat) (name : String) (owner : M) (p : Placement M) :
    (p.under name owner).event depth = p.event (depth + 1) := by
  simp [event, under, Nat.add_comm, Nat.add_left_comm]

end Placement

/-- What a walk gathers until it ends, and how it ends. -/
structure Gathered (M : Type) where
  placements : List (Placement M)
  outcome : Except Fault Unit

namespace Gathered

variable {M : Type}

/-- A question that has to be answered before more is gathered. -/
def check (outcome : Except Fault Unit) : Gathered M := ⟨[], outcome⟩

/-- One condition. -/
def one (p : Except Fault (Placement M)) : Gathered M :=
  match p with
  | .ok p => ⟨[p], .ok ()⟩
  | .error e => ⟨[], .error e⟩

/-- What is gathered next, unless there was a fault. -/
def andThen (x y : Gathered M) : Gathered M :=
  match x.outcome with
  | .ok () => ⟨x.placements ++ y.placements, y.outcome⟩
  | .error e => ⟨x.placements, .error e⟩

/-- Everything one relation further down. -/
def under (name : String) (owner : M) (x : Gathered M) : Gathered M :=
  { x with placements := x.placements.map (Placement.under name owner) }

end Gathered

/-! ## Gathering -/

/-- The field may be filtered, by the key below it. -/
def ModelGraph.checkEntry (g : ModelGraph M) (m : M) (field key : String) : Except Fault Unit := do
  g.checkField m field
  g.checkOperator m field key

namespace Resolver

variable {M : Type}

/-- The condition of an operator on a field, not below any relation. -/
def place (dialect : Dialect) (field : String) (e : Registry.Entry) (f : Filter) :
    Except Fault (Placement M) :=
  match f.arguments? with
  | none => .error (.invalidArguments e.symbol .nested)
  | some arguments => (e.build field arguments dialect).map fun c => ⟨[], e.symbol, field, c⟩

mutual

/-- The conditions under a field of a model. -/
def gather (r : Resolver) (g : ModelGraph M) (dialect : Dialect) (m : M) (field : String) :
    Filter → Gathered M
  | .leaf _ => .check (.error r.noOperator)
  | .group entries =>
    if entries.isEmpty then .check (.error r.noOperator)
    else gatherEach r g dialect m field entries

/-- The conditions under a field of a model that some of the entries there ask for. -/
def gatherEach (r : Resolver) (g : ModelGraph M) (dialect : Dialect) (m : M) (field : String) :
    List (String × Filter) → Gathered M
  | [] => .check (.ok ())
  | (key, f) :: rest =>
    (Gathered.check (g.checkEntry m field key)).andThen <|
    (match r.registry.lookup key with
      | some e => Gathered.one (place dialect field e f)
      | none =>
        match g.relation m field with
        | none => Gathered.check (.error (g.noField m field))
        | some (related, _) => (gather r g dialect related key f).under field m).andThen <|
    gatherEach r g dialect m field rest

end

end Resolver

/-! ## The cursor after a walk -/

namespace Plan

variable {M : Type}

/-- Put conditions in their places below a scope, in turn. -/
def insertAll (p : Plan M) (relations : List String) (owners : List M)
    (ps : List (Placement M)) : Plan M :=
  ps.foldl (fun q x => q.insert (relations ++ x.relations) (owners ++ x.owners) x.condition) p

@[simp] theorem insertAll_nil (p : Plan M) (relations : List String) (owners : List M) :
    p.insertAll relations owners [] = p := rfl

/-- Placements may be inserted in two parts. -/
theorem insertAll_append (p : Plan M) (relations : List String) (owners : List M)
    (ps qs : List (Placement M)) :
    p.insertAll relations owners (ps ++ qs) =
      (p.insertAll relations owners ps).insertAll relations owners qs :=
  List.foldl_append

/-- The plan of conditions in their places. -/
def ofPlacements (ps : List (Placement M)) : Plan M := empty.insertAll [] [] ps

/-- What lies one relation further down goes below the scope of that relation. -/
theorem insertAll_under (p : Plan M) (relations : List String) (owners : List M)
    (name : String) (owner : M) (ps : List (Placement M)) :
    p.insertAll relations owners (ps.map (Placement.under name owner)) =
      p.insertAll (relations ++ [name]) (owners ++ [owner]) ps := by
  simp [insertAll, List.foldl_map]

end Plan

namespace Cursor

variable {M : Type}

/-- A cursor after conditions have been put in their places below it. -/
def collect (c : Cursor M) (tracing : Bool) (ps : List (Placement M)) : Cursor M :=
  { c with
    plan := c.plan.insertAll c.path.segments c.owners ps
    events := c.events ++ if tracing then ps.map (Placement.event c.path.length) else [] }

@[simp] theorem current_collect (c : Cursor M) (tracing : Bool) (ps : List (Placement M)) :
    (c.collect tracing ps).current = c.current := rfl

@[simp] theorem collect_nil (c : Cursor M) (tracing : Bool) : c.collect tracing [] = c := by
  simp [collect]

/-- Placements may be collected in two parts. -/
theorem collect_append (c : Cursor M) (tracing : Bool) (ps qs : List (Placement M)) :
    c.collect tracing (ps ++ qs) = (c.collect tracing ps).collect tracing qs := by
  cases tracing <;> simp [collect, Plan.insertAll_append]

/-- What is collected on a related model is collected from here, one relation further
down. -/
theorem leave_pop_collect (c : Cursor M) (tracing : Bool) (name : String) (m : M)
    (ps : List (Placement M)) :
    (((c.push name).enter m).collect tracing ps).leave.pop =
      c.collect tracing (ps.map (Placement.under name c.current)) := by
  cases tracing <;>
    simp [collect, push, enter, leave, pop, Path.push, Path.pop, Path.length,
      Plan.insertAll_under, Placement.event_under, Function.comp_def]

end Cursor

/-! ## Walks gather -/

namespace Walk

variable {M : Type} {tracing : Bool}

@[simp] theorem run_get (c : Cursor M) : run get c = (.ok c, c) := rfl

@[simp] theorem run_set (c d : Cursor M) : run (set d) c = (.ok (), d) := rfl

@[simp] theorem run_liftM (x : Except Fault α) (c : Cursor M) :
    run (liftM x) c = (x, c) := by
  cases x <;> rfl

/-- A walk from a cursor puts in place what is gathered, stops where gathering stops, and
ends where it started. -/
def Gathers (tracing : Bool) (w : Walk M Unit) (c : Cursor M) (x : Gathered M) : Prop :=
  run w c = (x.outcome, c.collect tracing x.placements)

theorem gathers_pure (c : Cursor M) : Gathers tracing (pure ()) c (.check (.ok ())) := by
  simp [Gathers, Gathered.check]

theorem gathers_throw (c : Cursor M) (e : Fault) :
    Gathers tracing (throw e) c (.check (.error e)) := by
  simp [Gathers, Gathered.check]

/-- A question is answered without moving the cursor. -/
theorem gathers_asks (question : Cursor M → Except Fault Unit) (c : Cursor M) :
    Gathers tracing (asks question) c (.check (question c)) := by
  simp [Gathers, Gathered.check]

/-- Two walks in turn gather in turn. -/
theorem Gathers.bind {w next : Walk M Unit} {c : Cursor M} {x y : Gathered M}
    (hw : Gathers tracing w c x)
    (hnext : Gathers tracing next (c.collect tracing x.placements) y) :
    Gathers tracing (do w; next) c (x.andThen y) := by
  obtain ⟨ps, outcome⟩ := x
  have hbind := run_bind w (fun _ => next) c
  rw [hw] at hbind
  cases outcome with
  | error e => exact hbind
  | ok u =>
      rw [Gathers] at hnext ⊢
      simp only at hbind hnext
      rw [hbind, hnext]
      simp [Gathered.andThen, Cursor.collect_append]

/-- A walk across a relation gathers one relation further down. -/
theorem Gathers.below_across {g : ModelGraph M} {name : String} {w : Walk M Unit} {c : Cursor M}
    {m : M} {join : Join} {x : Gathered M} (hrel : g.relation c.current name = some (m, join))
    (hw : Gathers tracing w ((c.push name).enter m) x) :
    Gathers tracing (below name (across g name w)) c (x.under name c.current) := by
  have hrel' : g.relation (c.push name).current name = some (m, join) := hrel
  rw [Gathers] at hw ⊢
  rw [run_below, run_across hrel', hw]
  simp only [Cursor.leave_pop_collect]
  rfl

/-- Without the relation there is nothing to gather. -/
theorem gathers_below_across_none {g : ModelGraph M} {name : String} (w : Walk M Unit) {c : Cursor M}
    (hrel : g.relation c.current name = none) :
    Gathers tracing (below name (across g name w)) c
      (.check (.error (g.noField c.current name))) := by
  have hrun : run (across g name w) (c.push name) =
      run (match g.relation c.current name with
        | none => throw (g.noField c.current name)
        | some (m, _) => (do set ((c.push name).enter m); w.afterwards Cursor.leave))
        (c.push name) := rfl
  rw [hrel] at hrun
  rw [Gathers, run_below, hrun]
  simp [Gathered.check]

end Walk

namespace Resolver

variable {M : Type}

open Walk (Gathers run)

/-- An operator is applied to the innermost name of the path, and its condition goes below
the relations before it. -/
theorem gathers_applyLeaf (r : Resolver) (g : ModelGraph M) (dialect : Dialect) (field : String)
    (e : Registry.Entry) (f : Filter) (c : Cursor M) :
    Gathers r.tracing (Walk.below field (applyLeaf r g dialect e f)) c
      (.one (place dialect field e f)) := by
  have hsplit : (c.push field).path.splitLast? = some (field, c.path.segments) :=
    Path.splitLast?_push c.path field
  rw [Gathers, Walk.run_below, applyLeaf, Walk.run_bind, Walk.run_get]
  simp only [hsplit]
  cases hargs : f.arguments? with
  | none => simp [place, hargs, Gathered.one]
  | some arguments =>
      cases hbuild : e.build field arguments dialect with
      | error x => simp [place, hargs, hbuild, Walk.run_bind, Gathered.one, Except.map]
      | ok condition =>
          simp only [place, hargs, hbuild, Walk.run_bind, Walk.run_set, Gathered.one, Except.map]
          cases r.tracing <;>
            simp [Cursor.collect, Cursor.push, Cursor.pop, Plan.insertAll, Placement.relations,
              Placement.owners, Placement.event, Path.length]

/-- A key that is an operator is applied. -/
theorem dispatch_of_lookup (r : Resolver) (g : ModelGraph M) (dialect : Dialect) {key : String}
    {e : Registry.Entry} (hkey : r.registry.lookup key = some e) (f : Filter) :
    r.dispatch g dialect key f = applyLeaf r g dialect e f := by
  cases f <;> simp [dispatch, hkey]

/-- A check gathers nothing, and fails as it does. -/
theorem gathers_checkEntry (r : Resolver) (g : ModelGraph M) (field key : String)
    (c : Cursor M) :
    Gathers r.tracing (checkEntry g field key) c (.check (g.checkEntry c.current field key)) :=
  Walk.gathers_asks _ c

mutual

/-- A walk down a name that is no operator. -/
theorem gathers_dispatch (r : Resolver) (g : ModelGraph M) (dialect : Dialect) (field : String)
    (hfield : r.registry.lookup field = none) :
    (f : Filter) → (c : Cursor M) →
    Gathers r.tracing (r.dispatch g dialect field f) c (r.gather g dialect c.current field f)
  | .leaf v, c => by
      rw [dispatch, gather, hfield]
      exact Walk.gathers_throw c _
  | .group entries, c => by
      rw [dispatch, gather, hfield]
      by_cases hempty : entries.isEmpty = true
      · simp only [if_pos hempty]
        exact Walk.gathers_throw c _
      · simp only [if_neg hempty]
        exact gathers_entriesUnder r g dialect field entries c

/-- A walk through the entries under a field. -/
theorem gathers_entriesUnder (r : Resolver) (g : ModelGraph M) (dialect : Dialect)
    (field : String) : (entries : List (String × Filter)) → (c : Cursor M) →
    Gathers r.tracing (r.entriesUnder g dialect field entries) c
      (r.gatherEach g dialect c.current field entries)
  | [], c => by
      rw [entriesUnder, gatherEach]
      exact Walk.gathers_pure c
  | (key, f) :: rest, c => by
      rw [entriesUnder, gatherEach]
      refine (gathers_checkEntry r g field key c).bind ?_
      rw [Gathered.check, Cursor.collect_nil]
      refine Walk.Gathers.bind ?_ (gathers_entriesUnder r g dialect field rest _)
      cases hkey : r.registry.lookup key with
      | some e =>
          have hcontains : r.registry.contains key = true := by simp [Registry.contains, hkey]
          rw [if_pos hcontains, dispatch_of_lookup r g dialect hkey]
          exact gathers_applyLeaf r g dialect field e f c
      | none =>
          have hcontains : ¬ r.registry.contains key = true := by simp [Registry.contains, hkey]
          rw [if_neg hcontains]
          cases hrel : g.relation c.current field with
          | none => exact Walk.gathers_below_across_none _ hrel
          | some target =>
              obtain ⟨related, join⟩ := target
              exact Walk.Gathers.below_across hrel
                (gathers_dispatch r g dialect key hkey f ((c.push field).enter related))

end

/-- A walk from a model gathers what is found there without a cursor. -/
theorem run_dispatch_start (r : Resolver) (g : ModelGraph M) (dialect : Dialect) {field : String}
    (hfield : r.registry.lookup field = none) (f : Filter) (m : M) :
    run (r.dispatch g dialect field f) (Cursor.start m) =
      ((r.gather g dialect m field f).outcome,
       (Cursor.start m).collect r.tracing (r.gather g dialect m field f).placements) :=
  gathers_dispatch r g dialect field hfield f (Cursor.start m)

/-- An operator without a field above it has nothing to apply to. -/
theorem run_dispatch_operator (r : Resolver) (g : ModelGraph M) (dialect : Dialect)
    {symbol : String} {e : Registry.Entry} (hsymbol : r.registry.lookup symbol = some e)
    (f : Filter) (m : M) :
    run (r.dispatch g dialect symbol f) (Cursor.start m) =
      (.error (g.noField m e.symbol), Cursor.start m) := by
  rw [dispatch_of_lookup r g dialect hsymbol, applyLeaf, Walk.run_bind, Walk.run_get]
  rfl

/-- Resolving checks that an operator can be reached, and then makes a plan of what is
gathered. -/
theorem resolve_eq (r : Resolver) (g : ModelGraph M) (m : M) (dialect : Dialect) {field : String}
    (hfield : r.registry.lookup field = none) {f : Filter} (hvalid : r.validate f = .ok ()) :
    r.resolve g m dialect field f =
      let x := r.gather g dialect m field f
      ⟨.resolving (g.name m) field dialect.name ::
          (if r.tracing then x.placements.map (Placement.event 0) else []),
        x.outcome.map fun _ => .ofPlacements x.placements⟩ := by
  have hrun := run_dispatch_start r g dialect hfield f m
  simp only [resolve, hvalid, hrun]
  rfl

/-- Nothing is resolved of a filter in which no operator can be reached. -/
theorem outcome_resolve_of_invalid (r : Resolver) (g : ModelGraph M) (m : M) (dialect : Dialect)
    (field : String) {f : Filter} {e : Fault} (hinvalid : r.validate f = .error e) :
    (r.resolve g m dialect field f).outcome = .error e := by
  simp only [resolve, hinvalid]
  rfl

/-- Nothing is resolved of an operator without a field above it. -/
theorem outcome_resolve_operator (r : Resolver) (g : ModelGraph M) (m : M) (dialect : Dialect)
    {symbol : String} {e : Registry.Entry} (hsymbol : r.registry.lookup symbol = some e)
    {f : Filter} (hvalid : r.validate f = .ok ()) :
    (r.resolve g m dialect symbol f).outcome = .error (g.noField m e.symbol) := by
  have hrun := run_dispatch_operator r g dialect hsymbol f m
  simp only [resolve, hvalid, hrun]
  rfl

end Resolver

end Sift
