import Sift.Proofs.Catalog.Integrity
import Sift.Proofs.Resolver.Violation

/-!
# Sift.Proofs.Resolver.Document

A filter as the list of its keys in the order of the document, each judged where it stands.
A walk makes a condition of every operator up to the first key that is at fault, and ends
with that fault.

Main statements:

* `told_gather` — what is gathered of a filter is what its keys make until the first fault;
* `gather_of_outOfReach` — nothing is made of a filter in which no operator can be reached.
-/

namespace Sift

/-! ## Keys in order -/

/-- A key of a filter where it stands: below some names, the outermost first, and above a
filter of its own. -/
structure Filter.Node where
  above : List String
  key : String
  below : Filter

namespace Filter

/-- A node one name further down. -/
def Node.under (name : String) (n : Node) : Node := { n with above := name :: n.above }

mutual

/-- A key with what stands under it, node by node in the order of the document. -/
def nodes (key : String) : Filter → List Node
  | .leaf v => [⟨[], key, .leaf v⟩]
  | .group entries => ⟨[], key, .group entries⟩ :: (nodesEach entries).map (Node.under key)

def nodesEach : List (String × Filter) → List Node
  | [] => []
  | (key, f) :: rest => nodes key f ++ nodesEach rest

end

/-- The first node of a key is the key itself, in front of those further down. -/
theorem nodes_eq_cons (key : String) (f : Filter) :
    nodes key f = ⟨[], key, f⟩ :: (nodesEach (f.entries?.getD [])).map (Node.under key) := by
  cases f with
  | leaf v => rfl
  | group entries => rfl

end Filter

/-! ## Leaves -/

/-- An operator of a filter that has become a condition: the relations that lead to its
column, the outermost first. -/
structure Leaf where
  relations : List String
  column : String
  operator : String
  condition : Condition

namespace Leaf

/-- The leaf one relation further down. -/
def under (name : String) (l : Leaf) : Leaf := { l with relations := name :: l.relations }

/-- What is reported of a leaf. -/
def event (l : Leaf) : Event := .builtLeaf l.column l.operator l.relations.length

end Leaf

/-- A condition in its place, without the models on the way. -/
def Placement.leaf {M : Type} (p : Placement M) : Leaf :=
  ⟨p.relations, p.column, p.operator, p.condition⟩

/-- A placement is reported as its leaf is. -/
theorem Placement.event_leaf {M : Type} (p : Placement M) : p.leaf.event = p.event 0 := by
  simp [leaf, Leaf.event, event, relations]

/-! ## Until the first fault -/

/-- What becomes of a key: a leaf, nothing by itself, or a fault. -/
abbrev Judgement := Except Fault (Option Leaf)

namespace Judgement

/-- The judgement of the key one relation further down. -/
def under (name : String) : Judgement → Judgement
  | .ok (some l) => .ok (some (l.under name))
  | .ok none => .ok none
  | .error e => .error e

/-- The leaves that are made in turn, until the first fault. -/
def leaves : List Judgement → List Leaf
  | [] => []
  | .ok (some l) :: js => l :: leaves js
  | .ok none :: js => leaves js
  | .error _ :: _ => []

/-- The first fault, if there is one. -/
def outcome : List Judgement → Except Fault Unit
  | [] => .ok ()
  | .ok _ :: js => outcome js
  | .error e :: _ => .error e

/-- Judgements one after the other end as the first do, unless those let them go on. -/
theorem outcome_append (js ks : List Judgement) :
    outcome (js ++ ks) = (outcome js >>= fun _ => outcome ks) := by
  induction js with
  | nil => rfl
  | cons j js ih =>
      cases j with
      | error e => rfl
      | ok l => exact ih

/-- Behind judgements that go through, the leaves of the others follow. -/
theorem leaves_append_of_ok {js : List Judgement} (h : outcome js = .ok ())
    (ks : List Judgement) : leaves (js ++ ks) = leaves js ++ leaves ks := by
  induction js with
  | nil => rfl
  | cons j js ih =>
      cases j with
      | error e => simp [outcome] at h
      | ok l =>
          have hjs := ih h
          cases l <;> simp [leaves, hjs]

/-- Behind a fault there are no more leaves. -/
theorem leaves_append_of_error {js : List Judgement} {e : Fault} (h : outcome js = .error e)
    (ks : List Judgement) : leaves (js ++ ks) = leaves js := by
  induction js with
  | nil => simp [outcome] at h
  | cons j js ih =>
      cases j with
      | error x => rfl
      | ok l =>
          have hjs := ih h
          cases l <;> simp [leaves, hjs]

/-- Below a relation the same leaves are found, one name further down. -/
theorem leaves_map_under (name : String) (js : List Judgement) :
    leaves (js.map (under name)) = (leaves js).map (Leaf.under name) := by
  induction js with
  | nil => rfl
  | cons j js ih =>
      cases j with
      | error e => rfl
      | ok l => cases l <;> simp [leaves, under, ih]

/-- A relation in front does not change how judgements end. -/
theorem outcome_map_under (name : String) (js : List Judgement) :
    outcome (js.map (under name)) = outcome js := by
  induction js with
  | nil => rfl
  | cons j js ih =>
      cases j with
      | error e => rfl
      | ok l => cases l <;> simp [outcome, under, ih]

end Judgement

namespace Resolver

variable {M : Type}

/-! ## Judging keys -/

/-- Under a key that is no operator there are more keys. -/
def checkGroup (r : Resolver) (f : Filter) : Except Fault Unit :=
  if f.keys = [] then .error r.noOperator else .ok ()

/-- What becomes of a key below a field of a model: an operator makes a condition, and any
other key goes on with the model that the field leads to. -/
def judgeBelow (r : Resolver) (g : ModelGraph M) (dialect : Dialect) (m : M)
    (relations : List String) (field key : String) (f : Filter) :
    Judgement := do
  g.checkEntry m field key
  match r.registry.lookup key with
  | some e =>
    match f.arguments? with
    | none => throw (.invalidArguments e.symbol .nested)
    | some arguments =>
      let condition ← e.build field arguments dialect
      return some ⟨relations, field, e.symbol, condition⟩
  | none =>
    match g.relation m field with
    | none => throw (g.noField m field)
    | some _ =>
      r.checkGroup f
      return none

/-- What becomes of a node below a model.  The last name above it is the field that it stands
under, and the names before that lead to the model of the field. -/
def judge (r : Resolver) (g : ModelGraph M) (dialect : Dialect) (m : M) (n : Filter.Node) :
    Judgement :=
  match n.above.getLast? with
  | none =>
    match r.registry.lookup n.key with
    | some e => .error (g.noField m e.symbol)
    | none => (r.checkGroup n.below).map fun _ => none
  | some field =>
    match g.follow m n.above.dropLast with
    | none => .ok none
    | some owner => r.judgeBelow g dialect owner n.above.dropLast field n.key n.below

/-- The keys of a filter, judged in the order of the document. -/
def judged (r : Resolver) (g : ModelGraph M) (dialect : Dialect) (m : M) (field : String)
    (f : Filter) : List Judgement :=
  (f.nodes field).map (r.judge g dialect m)

/-- The operators of a filter that become conditions, in the order of the document and up to
the first fault. -/
def leaves (r : Resolver) (g : ModelGraph M) (dialect : Dialect) (m : M) (field : String)
    (f : Filter) : List Leaf :=
  Judgement.leaves (r.judged g dialect m field f)

/-! ## Judgements one relation further down -/

/-- A name in front of the path is a name in front of the judgement. -/
theorem judgeBelow_cons (r : Resolver) (g : ModelGraph M) (dialect : Dialect) (m : M)
    (name : String) (relations : List String) (field key : String) (f : Filter) :
    r.judgeBelow g dialect m (name :: relations) field key f =
      (r.judgeBelow g dialect m relations field key f).under name := by
  unfold judgeBelow
  cases g.checkEntry m field key with
  | error e => rfl
  | ok u =>
      cases r.registry.lookup key with
      | some e =>
          cases f.arguments? with
          | none => rfl
          | some arguments =>
              cases hbuild : e.build field arguments dialect <;>
                simp only [bind, Except.bind, hbuild] <;> rfl
      | none =>
          cases g.relation m field with
          | none => rfl
          | some target =>
              cases r.checkGroup f <;> rfl

/-- A node that stands below some name is judged alike from the model that a relation leads
to, and from the model that the relation belongs to. -/
theorem judge_under (r : Resolver) {g : ModelGraph M} (dialect : Dialect) {m related : M}
    {join : Join} {name : String} (hrel : g.relation m name = some (related, join))
    {n : Filter.Node} (hn : n.above ≠ []) :
    r.judge g dialect m (n.under name) = (r.judge g dialect related n).under name := by
  obtain ⟨above, key, f⟩ := n
  have hsome : ∃ field, above.getLast? = some field := by
    cases hlast : above.getLast? with
    | none => exact absurd (List.getLast?_eq_none_iff.mp hlast) hn
    | some field => exact ⟨field, rfl⟩
  obtain ⟨field, hlast⟩ := hsome
  have hlast' : (name :: above).getLast? = some field := by
    rw [List.getLast?_cons, hlast, Option.getD_some]
  have hdrop : (name :: above).dropLast = name :: above.dropLast :=
    List.dropLast_cons_of_ne_nil hn
  have hfollow : g.follow m (name :: above.dropLast) = g.follow related above.dropLast := by
    rw [ModelGraph.follow, hrel, Option.bind_some]
  simp only [judge, Filter.Node.under, hlast, hlast', hdrop, hfollow]
  cases g.follow related above.dropLast with
  | none => rfl
  | some owner => exact judgeBelow_cons r g dialect owner name _ field key f

end Resolver

/-! ## What is gathered -/

namespace Gathered

variable {M : Type}

/-- What is gathered is what judgements tell: their leaves until the first fault, and that
fault. -/
structure Told (x : Gathered M) (js : List Judgement) : Prop where
  leaves_eq : x.placements.map Placement.leaf = Judgement.leaves js
  outcome_eq : x.outcome = Judgement.outcome js

/-- Gathering in turn is associative. -/
theorem andThen_assoc (x y z : Gathered M) :
    x.andThen (y.andThen z) = (x.andThen y).andThen z := by
  obtain ⟨ps, xo⟩ := x
  obtain ⟨qs, yo⟩ := y
  cases xo with
  | error e => rfl
  | ok u =>
      cases yo with
      | error e => rfl
      | ok v => simp [andThen]

theorem check_ok_andThen (x : Gathered M) : (check (.ok ())).andThen x = x := by
  simp [andThen, check]

theorem check_error_andThen (e : Fault) (x : Gathered M) :
    (check (.error e)).andThen x = check (.error e) := rfl

/-- A check that gathers nothing is one judgement. -/
theorem told_check (outcome : Except Fault Unit) :
    (check outcome : Gathered M).Told [outcome.map fun _ => none] := by
  cases outcome with
  | error e => exact ⟨rfl, rfl⟩
  | ok u => exact ⟨rfl, rfl⟩

/-- Nothing is told behind a fault. -/
theorem Told.cut {x : Gathered M} {e : Fault} (h : x.Told [.error e]) (js : List Judgement) :
    x.Told (.error e :: js) :=
  ⟨h.leaves_eq, h.outcome_eq⟩

/-- What is gathered in turn is told by the judgements in turn. -/
theorem Told.andThen {x y : Gathered M} {js ks : List Judgement} (hx : x.Told js)
    (hy : y.Told ks) : (x.andThen y).Told (js ++ ks) := by
  obtain ⟨ps, outcome⟩ := x
  obtain ⟨hleaves, houtcome⟩ := hx
  cases outcome with
  | error e =>
      have hjs : Judgement.outcome js = .error e := houtcome.symm
      constructor
      · rw [Judgement.leaves_append_of_error hjs]
        exact hleaves
      · rw [Judgement.outcome_append, hjs]
        rfl
  | ok u =>
      have hjs : Judgement.outcome js = .ok () := houtcome.symm
      constructor
      · rw [Judgement.leaves_append_of_ok hjs, ← hleaves, ← hy.leaves_eq]
        exact List.map_append
      · rw [Judgement.outcome_append, hjs]
        exact hy.outcome_eq

/-- What is gathered below a relation is told by the judgements below it. -/
theorem Told.under {x : Gathered M} {js : List Judgement} (hx : x.Told js) (name : String)
    (owner : M) : (x.under name owner).Told (js.map (Judgement.under name)) := by
  constructor
  · rw [Judgement.leaves_map_under, ← hx.leaves_eq, placements_under, List.map_map, List.map_map]
    rfl
  · rw [Judgement.outcome_map_under, ← hx.outcome_eq]
    rfl

end Gathered

namespace Resolver

variable {M : Type}

open Gathered (Told)

/-- At the top of a filter only a group with entries is let through. -/
theorem judge_top {r : Resolver} (g : ModelGraph M) (dialect : Dialect) (m : M) {key : String}
    (hkey : r.registry.lookup key = none) (f : Filter) :
    r.judge g dialect m ⟨[], key, f⟩ = (r.checkGroup f).map fun _ => none := by
  simp [judge, hkey]

/-- The nodes of a relation, judged from the model that it belongs to. -/
theorem judge_nodes_under (r : Resolver) {g : ModelGraph M} (dialect : Dialect) {m related : M}
    {join : Join} {field : String} (hrel : g.relation m field = some (related, join))
    (key : String) (ns : List Filter.Node) :
    ((ns.map (Filter.Node.under key)).map (Filter.Node.under field)).map (r.judge g dialect m) =
      ((ns.map (Filter.Node.under key)).map (r.judge g dialect related)).map
        (Judgement.under field) := by
  simp only [List.map_map]
  refine List.map_congr_left fun n _ => ?_
  exact r.judge_under dialect hrel (n := n.under key) (List.cons_ne_nil key n.above)

/-- The nodes of a key under a field: the key itself comes first. -/
theorem judge_nodes_field (r : Resolver) (g : ModelGraph M) (dialect : Dialect) (m : M)
    (field key : String) (f : Filter) :
    ((f.nodes key).map (Filter.Node.under field)).map (r.judge g dialect m) =
      r.judgeBelow g dialect m [] field key f ::
        (((Filter.nodesEach (f.entries?.getD [])).map (Filter.Node.under key)).map
          (Filter.Node.under field)).map (r.judge g dialect m) := by
  rw [Filter.nodes_eq_cons, List.map_cons, List.map_cons]
  rfl

/-- An operator is judged as it is applied; nothing is told of what stands under it where it
takes no arguments. -/
theorem told_operator {r : Resolver} (g : ModelGraph M) (dialect : Dialect) (m : M)
    (field : String) {key : String} {e : Registry.Entry} (hkey : r.registry.lookup key = some e)
    (f : Filter) :
    ((Gathered.check (g.checkEntry m field key)).andThen
      (Gathered.one (place dialect field e f) : Gathered M)).Told
        (((f.nodes key).map (Filter.Node.under field)).map (r.judge g dialect m)) := by
  rw [judge_nodes_field, judgeBelow, hkey, place]
  cases g.checkEntry m field key with
  | error x => exact Told.cut ⟨rfl, rfl⟩ _
  | ok u =>
      rw [Gathered.check_ok_andThen]
      cases f with
      | group entries => exact Told.cut ⟨rfl, rfl⟩ _
      | leaf v =>
          cases hargs : (Filter.leaf v).arguments? with
          | none => exact Told.cut ⟨rfl, rfl⟩ _
          | some arguments =>
              cases hbuild : e.build field arguments dialect <;>
                simp only [bind, Except.bind, hbuild] <;> exact ⟨rfl, rfl⟩

/-- Without the relation nothing is told of what stands under a key. -/
theorem told_noRelation {r : Resolver} {g : ModelGraph M} (dialect : Dialect) {m : M}
    {field key : String} (hkey : r.registry.lookup key = none)
    (hrel : g.relation m field = none) (f : Filter) :
    ((Gathered.check (g.checkEntry m field key)).andThen
      (Gathered.check (.error (g.noField m field)) : Gathered M)).Told
        (((f.nodes key).map (Filter.Node.under field)).map (r.judge g dialect m)) := by
  rw [judge_nodes_field, judgeBelow, hkey, hrel]
  cases g.checkEntry m field key with
  | error x => exact Told.cut ⟨rfl, rfl⟩ _
  | ok u => exact Told.cut ⟨rfl, rfl⟩ _

/-- A relation is judged by the check of the field, and then by what lies below on the model
that it leads to. -/
theorem told_relation {r : Resolver} {g : ModelGraph M} (dialect : Dialect) {m related : M}
    {join : Join} {field key : String} (hkey : r.registry.lookup key = none)
    (hrel : g.relation m field = some (related, join)) (f : Filter)
    (hf : (r.gather g dialect related key f).Told (r.judged g dialect related key f)) :
    ((Gathered.check (g.checkEntry m field key)).andThen
      ((r.gather g dialect related key f).under field m)).Told
        (((f.nodes key).map (Filter.Node.under field)).map (r.judge g dialect m)) := by
  have hbelow := r.judge_nodes_under dialect hrel key (Filter.nodesEach (f.entries?.getD []))
  have hunder := hf.under field m
  rw [judged, Filter.nodes_eq_cons, List.map_cons, judge_top g dialect related hkey,
    List.map_cons] at hunder
  rw [judge_nodes_field, hbelow, judgeBelow, hkey, hrel]
  cases g.checkEntry m field key with
  | error e => exact Told.cut ⟨rfl, rfl⟩ _
  | ok u =>
      rw [Gathered.check_ok_andThen]
      cases hgroup : r.checkGroup f with
      | error e =>
          rw [hgroup] at hunder
          exact hunder
      | ok v =>
          rw [hgroup] at hunder
          exact hunder

mutual

/-- What is gathered under a field is what its nodes tell. -/
theorem told_gather (r : Resolver) (g : ModelGraph M) (dialect : Dialect) (m : M)
    (field : String) (hfield : r.registry.lookup field = none) : (f : Filter) →
    (r.gather g dialect m field f).Told (r.judged g dialect m field f)
  | .leaf v => by
      rw [gather, judged, Filter.nodes, List.map_singleton, judge_top g dialect m hfield]
      exact Gathered.told_check _
  | .group entries => by
      have heach := told_gatherEach r g dialect m field entries
      rw [gather, judged, Filter.nodes, List.map_cons, judge_top g dialect m hfield]
      cases entries with
      | nil => exact Gathered.told_check _
      | cons e rest =>
          rw [if_neg (by simp), ← Gathered.check_ok_andThen (r.gatherEach g dialect m field _)]
          exact (Gathered.told_check (.ok ())).andThen heach

/-- What is gathered of the entries under a field is what their nodes tell. -/
theorem told_gatherEach (r : Resolver) (g : ModelGraph M) (dialect : Dialect) (m : M)
    (field : String) : (entries : List (String × Filter)) →
    (r.gatherEach g dialect m field entries).Told
      (((Filter.nodesEach entries).map (Filter.Node.under field)).map (r.judge g dialect m))
  | [] => ⟨rfl, rfl⟩
  | (key, f) :: rest => by
      rw [gatherEach, Filter.nodesEach, List.map_append, List.map_append, Gathered.andThen_assoc]
      refine Told.andThen ?_ (told_gatherEach r g dialect m field rest)
      cases hkey : r.registry.lookup key with
      | some e => exact told_operator g dialect m field hkey f
      | none =>
          cases hrel : g.relation m field with
          | none => exact told_noRelation dialect hkey hrel f
          | some target =>
              exact told_relation dialect hkey hrel f
                (told_gather r g dialect target.1 key hkey f)

end

/-! ## Filters that are out of reach -/

/-- Where no operator can be reached, nothing is gathered before there is a fault. -/
theorem gather_of_outOfReach {r : Resolver} (g : ModelGraph M) (dialect : Dialect) {f : Filter}
    (h : r.OutOfReach f) (m : M) (field : String) :
    ∃ e, r.gather g dialect m field f = .check (.error e) := by
  induction h generalizing m field with
  | leaf v => exact ⟨r.noOperator, by rw [gather]⟩
  | empty => exact ⟨r.noOperator, by rw [gather]; rfl⟩
  | @first key f rest hkeys _ ih =>
      have hkey : r.registry.lookup key = none :=
        lookup_eq_none_iff.mpr (hkeys (key, f) List.mem_cons_self)
      rw [gather, if_neg (by simp), gatherEach, hkey]
      cases hcheck : g.checkEntry m field key with
      | error e => exact ⟨e, Gathered.check_error_andThen e _⟩
      | ok u =>
          rw [Gathered.check_ok_andThen]
          cases hrel : g.relation m field with
          | none => exact ⟨g.noField m field, Gathered.check_error_andThen _ _⟩
          | some target =>
              obtain ⟨e, he⟩ := ih target.1 key
              simp only [he]
              exact ⟨e, Gathered.check_error_andThen e _⟩

end Resolver

end Sift
