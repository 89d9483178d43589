import Sift.Logging
import Sift.Proofs.Plan.Paths
import Sift.Proofs.Resolver.Document
import Sift.Proofs.Resolver.Sequence

/-!
# Sift.Proofs.Resolver.Tracing

What tracing adds to the work of a resolver: a report of every operator that becomes a
condition, and nothing else.

Main statements:

* `events_resolve` — the reports of a filter, in the order of the document;
* `conditionsAt_planSoFar` — every condition lies under as many relations as its report says;
* `observes` — tracing changes no outcome and no scope, and reports every condition once.
-/

namespace Sift

/-! ## Reports of conditions -/

namespace Event

/-- Whether an operator is reported to have become a condition. -/
def isLeaf : Event → Bool
  | .builtLeaf _ _ _ => true
  | _ => false

/-- The reports of operators that have become conditions. -/
def leaves (events : List Event) : List Event := events.filter isLeaf

theorem leaves_append (es fs : List Event) : leaves (es ++ fs) = leaves es ++ leaves fs :=
  List.filter_append es fs

/-- What is reported of leaves are reports of leaves. -/
theorem leaves_map_event (ls : List Leaf) : leaves (ls.map Leaf.event) = ls.map Leaf.event := by
  have hall : ∀ e ∈ ls.map Leaf.event, e.isLeaf = true := by
    intro e he
    obtain ⟨l, -, rfl⟩ := List.mem_map.mp he
    rfl
  exact List.filter_eq_self.mpr hall

end Event

namespace Resolver

variable {M : Type}

def withTracing (r : Resolver) (on : Bool) : Resolver := { r with tracing := on }

/-! ## Nothing else depends on tracing -/

section Same

variable (r : Resolver) (on : Bool)

mutual

/-- Tracing has no part in the search for an operator. -/
theorem validate_withTracing : (f : Filter) → (r.withTracing on).validate f = r.validate f
  | .leaf v => by
      rw [validate, validate]
      rfl
  | .group entries => by
      rw [validate, validate, validateFirst_withTracing entries]
      rfl

theorem validateFirst_withTracing : (entries : List (String × Filter)) →
    (r.withTracing on).validateFirst entries = r.validateFirst entries
  | [] => by
      rw [validateFirst, validateFirst]
      rfl
  | (key, f) :: rest => by rw [validateFirst, validateFirst, validate_withTracing f]

end

variable (g : ModelGraph M) (dialect : Dialect)

mutual

/-- Nor has it in what is gathered. -/
theorem gather_withTracing (m : M) (field : String) : (f : Filter) →
    (r.withTracing on).gather g dialect m field f = r.gather g dialect m field f
  | .leaf v => by
      rw [gather, gather]
      rfl
  | .group entries => by
      rw [gather, gather, gatherEach_withTracing m field entries]
      rfl

theorem gatherEach_withTracing (m : M) (field : String) : (entries : List (String × Filter)) →
    (r.withTracing on).gatherEach g dialect m field entries =
      r.gatherEach g dialect m field entries
  | [] => by rw [gatherEach, gatherEach]
  | (key, f) :: rest => by
      have hf (related : M) := gather_withTracing related key f
      rw [gatherEach, gatherEach, gatherEach_withTracing m field rest]
      simp only [hf]
      rfl

end

end Same

/-! ## Reports in the order of the document -/

/-- An operator at the top of a filter is no field of the model. -/
theorem judge_operator {r : Resolver} (g : ModelGraph M) (m : M) (dialect : Dialect)
    {symbol : String} {e : Registry.Entry} (hsymbol : r.registry.lookup symbol = some e)
    (f : Filter) : r.judge g dialect m ⟨[], symbol, f⟩ = .error (g.noField m e.symbol) := by
  simp [judge, hsymbol]

/-- Nothing becomes of an operator without a field above it. -/
theorem leaves_of_operator {r : Resolver} (g : ModelGraph M) (m : M) (dialect : Dialect)
    {symbol : String} {e : Registry.Entry} (hsymbol : r.registry.lookup symbol = some e)
    (f : Filter) : r.leaves g dialect m symbol f = [] := by
  rw [leaves, judged, Filter.nodes_eq_cons, List.map_cons, judge_operator g m dialect hsymbol]
  rfl

/-- Nothing becomes of a filter in which no operator can be reached, traced or not. -/
theorem leaves_of_outOfReach {r : Resolver} (g : ModelGraph M) (m : M) (dialect : Dialect)
    {field : String} (hfield : r.registry.lookup field = none) {f : Filter}
    (h : r.OutOfReach f) : r.leaves g dialect m field f = [] := by
  obtain ⟨e, he⟩ := gather_of_outOfReach g dialect h m field
  have htold := (r.told_gather g dialect m field hfield f).leaves_eq
  rw [he] at htold
  exact htold.symm

/-- What is reported while a filter is resolved: the filter itself, and with tracing every
operator that becomes a condition, in the order of the document. -/
theorem events_resolve (r : Resolver) (g : ModelGraph M) (m : M) (dialect : Dialect)
    (field : String) (f : Filter) :
    (r.resolve g m dialect field f).events = .resolving (g.name m) field dialect.name ::
      if r.tracing then (r.leaves g dialect m field f).map Leaf.event else [] := by
  cases hfield : r.registry.lookup field with
  | some e =>
      rw [leaves_of_operator g m dialect hfield]
      cases hvalid : r.validate f with
      | error x =>
          simp only [resolve, hvalid, List.map_nil, ite_self]
          rfl
      | ok u =>
          simp only [resolve, hvalid, run_dispatch_operator r g dialect hfield f m, List.map_nil,
            ite_self]
          rfl
  | none =>
      cases hvalid : r.validate f with
      | error x =>
          have hreach := (validate_eq_error_iff.mp hvalid).1
          rw [leaves_of_outOfReach g m dialect hfield hreach]
          simp only [resolve, hvalid, List.map_nil, ite_self]
          rfl
      | ok u =>
          have htold := (r.told_gather g dialect m field hfield f).leaves_eq
          have hevents : Leaf.event ∘ Placement.leaf = Placement.event (M := M) 0 :=
            funext Placement.event_leaf
          rw [resolve_eq r g m dialect hfield hvalid, leaves, ← htold, List.map_map, hevents]

/-- The leaves of a filter are reported if the resolver traces, and else nothing. -/
theorem leaves_events_resolve (r : Resolver) (g : ModelGraph M) (m : M) (dialect : Dialect)
    (field : String) (f : Filter) :
    Event.leaves (r.resolve g m dialect field f).events =
      if r.tracing then (r.leaves g dialect m field f).map Leaf.event else [] := by
  rw [events_resolve]
  cases r.tracing with
  | false => rfl
  | true => exact Event.leaves_map_event _

end Resolver

/-! ## Conditions under relations -/

/-- A condition in its place, to be put there. -/
def Placement.insertion {M : Type} (p : Placement M) : Insertion M :=
  ⟨p.relations, p.owners, by simp [relations, owners], p.condition⟩

/-- A plan of placements is one of insertions. -/
theorem Plan.ofPlacements_eq {M : Type} (ps : List (Placement M)) :
    ofPlacements ps = ofInsertions (ps.map Placement.insertion) := by
  rw [ofPlacements, insertAll, ofInsertions, addAll, List.foldl_map]
  rfl

namespace Resolver

variable {M : Type} (r : Resolver) (g : ModelGraph M) (m : M) (dialect : Dialect)
  (field : String) (f : Filter)

/-- The plan as it stands when the walk over a filter ends, with a fault or without. -/
def planSoFar : Plan M :=
  (Walk.run (r.dispatch g dialect field f) (Cursor.start m)).2.plan

/-- Under a field the plan holds what has been gathered. -/
theorem planSoFar_of_field (hfield : r.registry.lookup field = none) :
    r.planSoFar g m dialect field f =
      .ofPlacements (r.gather g dialect m field f).placements := by
  rw [planSoFar, run_dispatch_start r g dialect hfield f m]
  rfl

/-- Under an operator at the top there is no plan. -/
theorem planSoFar_of_operator {e : Registry.Entry} (hfield : r.registry.lookup field = some e) :
    r.planSoFar g m dialect field f = .empty := by
  rw [planSoFar, run_dispatch_operator r g dialect hfield f m]
  rfl

/-- The conditions that lie under a path of relations are those of the leaves on that path, in
the order of the document. -/
theorem conditionsAt_planSoFar (path : List String) :
    (r.planSoFar g m dialect field f).conditionsAt path =
      ((r.leaves g dialect m field f).filter (·.relations = path)).map (·.condition) := by
  cases hfield : r.registry.lookup field with
  | some e =>
      rw [planSoFar_of_operator r g m dialect field f hfield,
        leaves_of_operator g m dialect hfield, Plan.conditionsAt_empty]
      rfl
  | none =>
      have htold := (r.told_gather g dialect m field hfield f).leaves_eq
      have hadd := Plan.conditionsAt_addAll .empty
        ((r.gather g dialect m field f).placements.map Placement.insertion) path
      rw [planSoFar_of_field r g m dialect field f hfield, Plan.ofPlacements_eq,
        Plan.ofInsertions, hadd, Plan.conditionsAt_empty, List.nil_append, leaves, ← htold]
      simp only [List.filter_map, List.map_map]
      rfl

/-- There are as many conditions as leaves. -/
theorem count_planSoFar :
    (r.planSoFar g m dialect field f).count = (r.leaves g dialect m field f).length := by
  cases hfield : r.registry.lookup field with
  | some e =>
      rw [planSoFar_of_operator r g m dialect field f hfield,
        leaves_of_operator g m dialect hfield]
      rfl
  | none =>
      have htold := (r.told_gather g dialect m field hfield f).leaves_eq
      have hadd := Plan.count_addAll .empty
        ((r.gather g dialect m field f).placements.map Placement.insertion)
      rw [planSoFar_of_field r g m dialect field f hfield, Plan.ofPlacements_eq,
        Plan.ofInsertions, hadd, leaves, ← htold, List.length_map, List.length_map]
      exact Nat.zero_add _

/-- The plan of a filter is what stands when the walk has gone through. -/
theorem eq_planSoFar_of_resolve {p : Plan M}
    (h : (r.resolve g m dialect field f).outcome = .ok p) :
    p = r.planSoFar g m dialect field f := by
  obtain ⟨haccepts, rfl⟩ := outcome_resolve_eq_ok_iff.mp h
  cases hfield : r.registry.lookup field with
  | some e =>
      cases hvalid : r.validate f with
      | error x =>
          rw [outcome_resolve_of_invalid r g m dialect field hvalid] at h
          cases h
      | ok u =>
          rw [outcome_resolve_operator r g m dialect hfield hvalid] at h
          cases h
  | none => rw [planSoFar_of_field r g m dialect field f hfield]

/-- A filter resolves if an operator can be reached in it and no key is at fault, and fails
with the first fault otherwise. -/
theorem outcome_resolve_eq_judged :
    ((r.resolve g m dialect field f).outcome.map fun _ => ()) =
      (r.validate f >>= fun _ => Judgement.outcome (r.judged g dialect m field f)) := by
  cases hvalid : r.validate f with
  | error x =>
      rw [outcome_resolve_of_invalid r g m dialect field hvalid]
      rfl
  | ok u =>
      cases hfield : r.registry.lookup field with
      | some e =>
          rw [outcome_resolve_operator r g m dialect hfield hvalid, judged,
            Filter.nodes_eq_cons, List.map_cons, judge_operator g m dialect hfield]
          rfl
      | none =>
          have htold := (r.told_gather g dialect m field hfield f).outcome_eq
          rw [resolve_eq r g m dialect hfield hvalid, ← htold]
          cases hgather : (r.gather g dialect m field f).outcome <;> simp only [hgather] <;> rfl

end Resolver

/-! ## Tracing on and off -/

namespace Resolver

variable {M : Type} (r : Resolver) (g : ModelGraph M) (m : M)

/-- A filter resolves alike whether it is traced or not. -/
theorem outcome_resolve_withTracing (on : Bool) (dialect : Dialect) (field : String)
    (f : Filter) :
    ((r.withTracing on).resolve g m dialect field f).outcome =
      (r.resolve g m dialect field f).outcome := by
  have hvalidate := r.validate_withTracing on f
  cases hvalid : r.validate f with
  | error x =>
      rw [outcome_resolve_of_invalid r g m dialect field hvalid,
        outcome_resolve_of_invalid _ g m dialect field (hvalidate.trans hvalid)]
  | ok u =>
      cases hfield : r.registry.lookup field with
      | some e =>
          rw [outcome_resolve_operator r g m dialect hfield hvalid,
            outcome_resolve_operator (r.withTracing on) g m dialect hfield
              (hvalidate.trans hvalid)]
      | none =>
          rw [resolve_eq r g m dialect hfield hvalid,
            resolve_eq (r.withTracing on) g m dialect hfield (hvalidate.trans hvalid),
            gather_withTracing r on g dialect m field f]

/-- So do several keys. -/
theorem outcome_resolveEach_withTracing (on : Bool) (dialect : Dialect)
    (entries : List (String × Filter)) :
    ((r.withTracing on).resolveEach g m dialect entries).outcome =
      (r.resolveEach g m dialect entries).outcome := by
  induction entries with
  | nil => rfl
  | cons e rest ih =>
      have he := r.outcome_resolve_withTracing g m on dialect e.1 e.2
      rw [resolveEach, resolveEach]
      simp only [Reported.outcome_bind, he, ih]

/-- Nothing is reported of the leaves of several keys, if the resolver does not trace. -/
theorem leaves_events_resolveEach (hsilent : r.tracing = false) (dialect : Dialect)
    (entries : List (String × Filter)) :
    Event.leaves (r.resolveEach g m dialect entries).events = [] := by
  induction entries with
  | nil => rfl
  | cons e rest ih =>
      have he := leaves_events_resolve r g m dialect e.1 e.2
      rw [hsilent, if_neg Bool.false_ne_true] at he
      rw [resolveEach]
      cases hp : (r.resolve g m dialect e.1 e.2).outcome with
      | error x => rw [Reported.bind_of_error hp, he]
      | ok p =>
          rw [Reported.bind_of_ok hp, Event.leaves_append, he]
          cases hps : (r.resolveEach g m dialect rest).outcome with
          | error x => rw [Reported.bind_of_error hps, ih, List.append_nil]
          | ok ps =>
              rw [Reported.bind_of_ok hps, Event.leaves_append, ih]
              rfl

/-- What is added to a scope depends on the plans alone, not on what has been reported. -/
theorem addResolved_congr (s : Scope) {plans plans' : Reported Fault (List (Plan M))}
    (h : plans.outcome = plans'.outcome) :
    (addResolved g s plans).outcome = (addResolved g s plans').outcome ∧
      (addResolved g s plans).scope = (addResolved g s plans').scope := by
  rw [addResolved, addResolved, h]
  cases plans'.outcome <;> exact ⟨rfl, rfl⟩

/-- Adding plans to a scope reports nothing of its own. -/
theorem events_addResolved (s : Scope) (plans : Reported Fault (List (Plan M))) :
    (addResolved g s plans).events = plans.events := by
  rw [addResolved]
  cases plans.outcome <;> rfl

/-- A key is applied alike whether it is traced or not. -/
theorem apply_withTracing (on : Bool) (s : Scope) (field : String) (f : Filter) :
    ((r.withTracing on).apply g m s field f).outcome = (r.apply g m s field f).outcome ∧
      ((r.withTracing on).apply g m s field f).scope = (r.apply g m s field f).scope := by
  refine addResolved_congr g s ?_
  rw [Reported.outcome_bind, Reported.outcome_bind, outcome_resolve_withTracing]

/-- Applying a key reports what resolving it does. -/
theorem events_apply (s : Scope) (field : String) (f : Filter) :
    (r.apply g m s field f).events = (r.resolve g m s.frame.dialect field f).events := by
  cases h : (r.resolve g m s.frame.dialect field f).outcome with
  | error x => rw [apply_of_error h]
  | ok p => rw [apply_of_ok h]

/-- A filter with all its keys is applied alike, too. -/
theorem applyAll_withTracing (on : Bool) (s : Scope) (f : Filter) :
    ((r.withTracing on).applyAll g m s f).outcome = (r.applyAll g m s f).outcome ∧
      ((r.withTracing on).applyAll g m s f).scope = (r.applyAll g m s f).scope := by
  refine addResolved_congr g s ?_
  cases f.entries? with
  | none => rfl
  | some entries => exact r.outcome_resolveEach_withTracing g m on s.frame.dialect entries

theorem leaves_events_applyAll (hsilent : r.tracing = false) (s : Scope) (f : Filter) :
    Event.leaves (r.applyAll g m s f).events = [] := by
  rw [applyAll, events_addResolved]
  cases f.entries? with
  | none => rfl
  | some entries => exact r.leaves_events_resolveEach g m hsilent s.frame.dialect entries

/-- The resolver as the settings for logging have it. -/
def withSettings (r : Resolver) (s : Logging.Settings) : Resolver := r.withTracing s.debugging

/-- What tracing has to do with the work of a resolver, on a model. -/
structure Observes (r : Resolver) (g : ModelGraph M) (m : M) : Prop where
  /-- A filter resolves to the same plan, or fails with the same fault, whether it is traced
  or not. -/
  resolve : ∀ (s t : Logging.Settings) (dialect : Dialect) (field : String) (f : Filter),
    ((r.withSettings s).resolve g m dialect field f).outcome =
      ((r.withSettings t).resolve g m dialect field f).outcome
  apply : ∀ (s t : Logging.Settings) (scope : Scope) (field : String) (f : Filter),
    ((r.withSettings s).apply g m scope field f).outcome =
        ((r.withSettings t).apply g m scope field f).outcome ∧
      ((r.withSettings s).apply g m scope field f).scope =
        ((r.withSettings t).apply g m scope field f).scope
  applyAll : ∀ (s t : Logging.Settings) (scope : Scope) (f : Filter),
    ((r.withSettings s).applyAll g m scope f).outcome =
        ((r.withSettings t).applyAll g m scope f).outcome ∧
      ((r.withSettings s).applyAll g m scope f).scope =
        ((r.withSettings t).applyAll g m scope f).scope
  /-- Without debugging no condition is reported. -/
  silent : ∀ s : Logging.Settings, s.debugging = false →
    (∀ dialect field f,
      Event.leaves ((r.withSettings s).resolve g m dialect field f).events = []) ∧
    (∀ scope field f, Event.leaves ((r.withSettings s).apply g m scope field f).events = []) ∧
    (∀ scope f, Event.leaves ((r.withSettings s).applyAll g m scope f).events = [])
  /-- With it, every operator of the filter that becomes a condition is reported once, in the
  order of the document and up to the first fault, -/
  reported : ∀ s : Logging.Settings, s.debugging = true → ∀ dialect field f,
    Event.leaves ((r.withSettings s).resolve g m dialect field f).events =
      (r.leaves g dialect m field f).map Leaf.event
  /-- with which resolving then fails. -/
  fault : ∀ (s : Logging.Settings) (dialect : Dialect) (field : String) (f : Filter),
    (((r.withSettings s).resolve g m dialect field f).outcome.map fun _ => ()) =
      (r.validate f >>= fun _ => Judgement.outcome (r.judged g dialect m field f))
  /-- The conditions under a path of relations are those that are reported with as many
  relations as the path has, by these names. -/
  placed : ∀ (s : Logging.Settings) (dialect : Dialect) (field : String) (f : Filter)
    (path : List String),
    ((r.withSettings s).planSoFar g m dialect field f).conditionsAt path =
      ((r.leaves g dialect m field f).filter (·.relations = path)).map (·.condition)
  /-- The plan of a filter that resolves has as many conditions as there are reports. -/
  counted : ∀ (s : Logging.Settings) (dialect : Dialect) (field : String) (f : Filter)
    (p : Plan M),
    ((r.withSettings s).resolve g m dialect field f).outcome = .ok p →
      p = (r.withSettings s).planSoFar g m dialect field f ∧
        p.count = (r.leaves g dialect m field f).length

/-- Tracing observes the work of a resolver and does not interfere with it. -/
theorem observes (r : Resolver) (g : ModelGraph M) (m : M) : r.Observes g m := by
  constructor
  case resolve =>
    intro s t dialect field f
    rw [withSettings, withSettings, outcome_resolve_withTracing, outcome_resolve_withTracing]
  case apply =>
    intro s t scope field f
    have hs := r.apply_withTracing g m s.debugging scope field f
    have ht := r.apply_withTracing g m t.debugging scope field f
    exact ⟨hs.1.trans ht.1.symm, hs.2.trans ht.2.symm⟩
  case applyAll =>
    intro s t scope f
    have hs := r.applyAll_withTracing g m s.debugging scope f
    have ht := r.applyAll_withTracing g m t.debugging scope f
    exact ⟨hs.1.trans ht.1.symm, hs.2.trans ht.2.symm⟩
  case silent =>
    intro s hoff
    have hresolve (dialect : Dialect) (field : String) (f : Filter) :
        Event.leaves ((r.withSettings s).resolve g m dialect field f).events = [] := by
      have h := leaves_events_resolve (r.withSettings s) g m dialect field f
      rwa [if_neg (by simp [withSettings, withTracing, hoff])] at h
    refine ⟨hresolve, fun scope field f => ?_, fun scope f => ?_⟩
    · rw [events_apply]
      exact hresolve scope.frame.dialect field f
    · exact leaves_events_applyAll (r.withSettings s) g m hoff scope f
  case reported =>
    intro s hon dialect field f
    have h := leaves_events_resolve (r.withSettings s) g m dialect field f
    rwa [if_pos (show (r.withSettings s).tracing = true from hon)] at h
  case fault =>
    intro s dialect field f
    rw [withSettings, outcome_resolve_withTracing]
    exact outcome_resolve_eq_judged r g m dialect field f
  case placed =>
    intro s dialect field f path
    exact conditionsAt_planSoFar (r.withSettings s) g m dialect field f path
  case counted =>
    intro s dialect field f p hp
    have hplan := eq_planSoFar_of_resolve (r.withSettings s) g m dialect field f hp
    refine ⟨hplan, ?_⟩
    rw [hplan]
    exact count_planSoFar (r.withSettings s) g m dialect field f

end Resolver

/-- Of books by title and by an author who is no field, the title is reported before the fault,
if debugging is on; and the fault is the same without. -/
theorem Engine.observes_library :
    let f : Filter := .group
      [("title", .entry "$eq" (.leaf (.text "Orlando"))),
        ("publisher", .entry "$eq" (.leaf (.text "Hogarth")))]
    let debug : Logging.Settings := ⟨Environment.empty.set "FILTRA_DEBUG" "yes", false⟩
    let quiet : Logging.Settings := ⟨.empty, false⟩
    let resolveWith (s : Logging.Settings) :=
      (library.resolver.withSettings s).resolve library.catalog.graph (0 : Fin 2) .postgres "books" f
    debug.debugging = true ∧ quiet.debugging = false ∧
      (resolveWith debug).outcome = (resolveWith quiet).outcome ∧
      Event.leaves (resolveWith debug).events = [.builtLeaf "title" "$eq" 1] ∧
      Event.leaves (resolveWith quiet).events = [] := by
  intro f debug quiet resolveWith
  have hdebug : debug.debugging = true := rfl
  have hquiet : quiet.debugging = false := rfl
  have h := Resolver.observes library.resolver library.catalog.graph (0 : Fin 2)
  exact ⟨hdebug, hquiet, h.resolve debug quiet .postgres "books" f,
    h.reported debug hdebug .postgres "books" f, (h.silent quiet hquiet).1 .postgres "books" f⟩

end Sift
