import Mathlib.Logic.Relation
import Sift.Proofs.Engine.Filter
import Sift.Proofs.Plan.Paths
import Sift.Proofs.Resolver.Gather

/-!
# Sift.Proofs.Resolver.Calls

The calls that a walk makes on its way through a filter.  Each of them starts on a cursor of
its own; what the cursor has gone down and across for a call is taken back when the call ends,
so that the models left behind belong to the relations of the path at any time.

Main statements:

* `samePlace_dispatch` — a call comes back to where it started, however it ends;
* `InPlace.step`, `InPlace.reach` — from a call in place, every call is made in place;
* `built_dispatch` — what a call adds to the plan is what the operators it reaches add;
* `disciplined` — all of it, for any resolver.
-/

namespace Sift

namespace Cursor

variable {M : Type} {g : ModelGraph M} {c d : Cursor M}

/-! ## Where a cursor stands -/

/-- The cursors stand in the same place; they may have gathered different things. -/
structure SamePlace (c d : Cursor M) : Prop where
  path_eq : d.path = c.path
  owners_eq : d.owners = c.owners
  current_eq : d.current = c.current

theorem SamePlace.refl (c : Cursor M) : c.SamePlace c := ⟨rfl, rfl, rfl⟩

/-- Gathering does not move a cursor. -/
theorem samePlace_collect (c : Cursor M) (tracing : Bool) (ps : List (Placement M)) :
    c.SamePlace (c.collect tracing ps) := ⟨rfl, rfl, rfl⟩

/-- Every model left behind has the name at its place in the path as a relation, and the
relation leads to the next model, the last of them to the current one. -/
def Tied (g : ModelGraph M) (c : Cursor M) : Prop :=
  ∀ i owner, c.owners[i]? = some owner →
    ∃ name next join, c.path.segments[i]? = some name ∧
      (c.owners ++ [c.current])[i + 1]? = some next ∧ g.relation owner name = some (next, join)

/-- On a model: every name of the path is a relation of a model left behind. -/
structure Balanced (g : ModelGraph M) (c : Cursor M) : Prop where
  tied : c.Tied g
  length_eq : c.path.length = c.owners.length

/-- On a field of a model: the last name of the path is not a relation that was followed. -/
structure OnField (g : ModelGraph M) (c : Cursor M) : Prop where
  tied : c.Tied g
  length_eq : c.path.length = c.owners.length + 1

/-- Whether a cursor is on a model depends on its place only. -/
theorem Balanced.of_samePlace (h : c.SamePlace d) (hc : c.Balanced g) : d.Balanced g := by
  obtain ⟨htied, hlength⟩ := hc
  constructor
  · rw [Tied, h.path_eq, h.owners_eq, h.current_eq]
    exact htied
  · rw [h.path_eq, h.owners_eq, hlength]

/-- A walk starts on a model. -/
theorem balanced_start (g : ModelGraph M) (m : M) : (start m).Balanced g :=
  ⟨fun i owner h => by simp [start] at h, rfl⟩

/-- Going down to a name leaves the models behind as they were. -/
theorem Tied.push (h : c.Tied g) (name : String) : (c.push name).Tied g := by
  intro i owner howner
  obtain ⟨step, next, join, hstep, hnext, hrel⟩ := h i owner howner
  have hlt : i < c.path.segments.length := (List.getElem?_eq_some_iff.mp hstep).1
  have hpush : (c.push name).path.segments[i]? = some step := by
    rw [Cursor.push, Path.push, List.getElem?_append_left hlt, hstep]
  exact ⟨step, next, join, hpush, hnext, hrel⟩

/-- Below a name of its own a cursor is on a field. -/
theorem Balanced.push (h : c.Balanced g) (name : String) : (c.push name).OnField g :=
  ⟨h.tied.push name, by rw [Cursor.push, Path.length_push, h.length_eq]⟩

/-- Across a relation a cursor is on a model again. -/
theorem Balanced.enter (h : c.Balanced g) {name : String} {m : M} {join : Join}
    (hrel : g.relation c.current name = some (m, join)) :
    ((c.push name).enter m).Balanced g := by
  have hpath : c.path.segments.length = c.owners.length := h.length_eq
  constructor
  · intro i owner howner
    change (c.owners ++ [c.current])[i]? = some owner at howner
    change ∃ step next join, (c.path.segments ++ [name])[i]? = some step ∧
      ((c.owners ++ [c.current]) ++ [m])[i + 1]? = some next ∧ _
    by_cases hi : i < c.owners.length
    · rw [List.getElem?_append_left hi] at howner
      obtain ⟨step, next, join, hstep, hnext, hown⟩ := h.tied i owner howner
      have hlt : i < c.path.segments.length := (List.getElem?_eq_some_iff.mp hstep).1
      have hlt' : i + 1 < (c.owners ++ [c.current]).length :=
        (List.getElem?_eq_some_iff.mp hnext).1
      refine ⟨step, next, join, ?_, ?_, hown⟩
      · rw [List.getElem?_append_left hlt, hstep]
      · rw [List.getElem?_append_left hlt', hnext]
    · -- the last model left behind is the one that the relation belongs to
      have hlast : i = c.owners.length := by
        have hlt : i < (c.owners ++ [c.current]).length := (List.getElem?_eq_some_iff.mp howner).1
        rw [List.length_append, List.length_singleton] at hlt
        omega
      subst hlast
      have howner' : c.current = owner := by simpa using howner
      refine ⟨name, m, join, ?_, ?_, ?_⟩
      · rw [← hpath, List.getElem?_concat_length]
      · simp
      · rw [← howner', hrel]
  · change (c.path.push name).length = (c.owners ++ [c.current]).length
    rw [Path.length_push, h.length_eq, List.length_append, List.length_singleton]

end Cursor

/-! ## Calls -/

/-- A key of a filter and what stands under it, to be resolved from a cursor. -/
structure Call (M : Type) where
  cursor : Cursor M
  key : String
  filter : Filter

namespace Call

variable {M : Type} (r : Resolver) (g : ModelGraph M) (dialect : Dialect)

/-- Make a call. -/
def run (call : Call M) : Except Fault Unit × Cursor M :=
  Walk.run (r.dispatch g dialect call.key call.filter) call.cursor

/-- A call makes another one: the entries of its group before some entry have gone through,
the field may be filtered by the key of that entry, and the cursor has gone down to the field,
and across the relation if the key is no operator. -/
inductive Makes : Call M → Call M → Prop
  | operator {c d : Cursor M} {field key : String} {f : Filter}
      {before after : List (String × Filter)} (hfield : r.registry.contains field = false)
      (hbefore : Walk.run (r.entriesUnder g dialect field before) c = (.ok (), d))
      (hentry : g.checkEntry d.current field key = .ok ())
      (hkey : r.registry.contains key = true) :
      Makes ⟨c, field, .group (before ++ (key, f) :: after)⟩ ⟨d.push field, key, f⟩
  | relation {c d : Cursor M} {field key : String} {f : Filter}
      {before after : List (String × Filter)} {m : M} {join : Join}
      (hfield : r.registry.contains field = false)
      (hbefore : Walk.run (r.entriesUnder g dialect field before) c = (.ok (), d))
      (hentry : g.checkEntry d.current field key = .ok ())
      (hkey : r.registry.contains key = false)
      (hrel : g.relation d.current field = some (m, join)) :
      Makes ⟨c, field, .group (before ++ (key, f) :: after)⟩ ⟨(d.push field).enter m, key, f⟩

/-- A call makes another one, at any depth, or is that call. -/
def Reaches : Call M → Call M → Prop := Relation.ReflTransGen (Makes r g dialect)

/-- An operator is called on a field, and any other key on a model. -/
def InPlace (call : Call M) : Prop :=
  if r.registry.contains call.key then call.cursor.OnField g else call.cursor.Balanced g

/-- The call is of an operator, and adds its condition to the plan: below the relations of the
path, all its names but the last, with the models left behind as those they belong to. -/
structure Builds (call : Call M) (i : Insertion M) : Prop where
  operator : r.registry.contains call.key = true
  path_eq : ∃ column, call.cursor.path.segments = i.relations ++ [column]
  owners_eq : call.cursor.owners = i.owners
  outcome_eq : (call.run r g dialect).1 = .ok ()
  plan_eq : (call.run r g dialect).2.plan = call.cursor.plan.add i

end Call

namespace Resolver

variable {M : Type} (r : Resolver) (g : ModelGraph M) (dialect : Dialect)

/-! ## Calls come back -/

theorem lookup_eq_none_of_not_contains {symbol : String}
    (h : r.registry.contains symbol = false) : r.registry.lookup symbol = none := by
  simpa [Registry.contains] using h

/-- An operator fails and does nothing, or adds one condition to the plan: below the relations
of the path, with the models left behind. -/
theorem applyLeaf_cases (e : Registry.Entry) (f : Filter) (c : Cursor M) :
    (∃ x, Walk.run (applyLeaf r g dialect e f) c = (.error x, c)) ∨
    ∃ column relations condition events, c.path.segments = relations ++ [column] ∧
      Walk.run (applyLeaf r g dialect e f) c =
        (.ok (), { c with plan := c.plan.insert relations c.owners condition, events := events }) := by
  rw [applyLeaf, Walk.run_bind, Walk.run_get]
  cases hlast : c.path.segments.getLast? with
  | none =>
      have hsplit : c.path.splitLast? = none := by simp [Path.splitLast?, Path.last?, hlast]
      simp only [hsplit, Walk.run_throw]
      exact .inl ⟨_, rfl⟩
  | some column =>
      obtain ⟨relations, hsegments⟩ := List.getLast?_eq_some_iff.mp hlast
      have hsplit : c.path.splitLast? = some (column, relations) := by
        simp [Path.splitLast?, Path.last?, hsegments]
      simp only [hsplit]
      cases f.arguments? with
      | none => exact .inl ⟨_, rfl⟩
      | some arguments =>
          cases hbuild : e.build column arguments dialect with
          | error x =>
              simp only [hbuild, Walk.run_bind, Walk.run_liftM]
              exact .inl ⟨x, rfl⟩
          | ok condition =>
              simp only [hbuild, Walk.run_bind, Walk.run_liftM, Walk.run_set]
              exact .inr ⟨column, relations, condition, _, hsegments, rfl⟩

/-- A call comes back to where it started, whether it goes through or fails. -/
theorem samePlace_dispatch (c : Cursor M) (key : String) (f : Filter) :
    c.SamePlace (Walk.run (r.dispatch g dialect key f) c).2 := by
  cases hkey : r.registry.lookup key with
  | none =>
      have hrun : Walk.run (r.dispatch g dialect key f) c = _ :=
        gathers_dispatch r g dialect key hkey f c
      rw [hrun]
      exact c.samePlace_collect _ _
  | some e =>
      rw [dispatch_of_lookup r g dialect hkey]
      obtain ⟨x, hrun⟩ | ⟨column, relations, condition, events, -, hrun⟩ :=
        applyLeaf_cases r g dialect e f c
      · rw [hrun]
        exact .refl c
      · rw [hrun]
        exact ⟨rfl, rfl, rfl⟩

/-- So do the entries under a field. -/
theorem samePlace_entriesUnder {c d : Cursor M} {field : String}
    {entries : List (String × Filter)} {outcome : Except Fault Unit}
    (h : Walk.run (r.entriesUnder g dialect field entries) c = (outcome, d)) :
    c.SamePlace d := by
  have hrun : Walk.run (r.entriesUnder g dialect field entries) c = _ :=
    gathers_entriesUnder r g dialect field entries c
  rw [h] at hrun
  obtain ⟨-, rfl⟩ := Prod.mk.inj hrun
  exact c.samePlace_collect _ _

end Resolver

/-! ## Calls are made in place -/

namespace Call

variable {M : Type} {r : Resolver} {g : ModelGraph M} {dialect : Dialect} {call inner : Call M}

/-- An operator is in place on a field. -/
theorem inPlace_operator_iff (hkey : r.registry.contains call.key = true) :
    call.InPlace r g ↔ call.cursor.OnField g := by rw [InPlace, if_pos hkey]

/-- Any other key is in place on a model. -/
theorem inPlace_relation_iff (hkey : r.registry.contains call.key = false) :
    call.InPlace r g ↔ call.cursor.Balanced g := by
  rw [InPlace, hkey, if_neg Bool.false_ne_true]

/-- A call in place makes calls in place. -/
theorem InPlace.step (hcall : call.InPlace r g) (h : Makes r g dialect call inner) :
    inner.InPlace r g := by
  cases h with
  | @operator c d field key f before after hfield hbefore hentry hkey =>
      have hc : c.Balanced g := (inPlace_relation_iff hfield).mp hcall
      have hd := hc.of_samePlace (r.samePlace_entriesUnder g dialect hbefore)
      exact (inPlace_operator_iff hkey).mpr (hd.push field)
  | @relation c d field key f before after m join hfield hbefore hentry hkey hrel =>
      have hc : c.Balanced g := (inPlace_relation_iff hfield).mp hcall
      have hd := hc.of_samePlace (r.samePlace_entriesUnder g dialect hbefore)
      exact (inPlace_relation_iff hkey).mpr (hd.enter hrel)

/-- From a call in place, every call that is reached is made in place. -/
theorem InPlace.reach (hcall : call.InPlace r g) (h : Reaches r g dialect call inner) :
    inner.InPlace r g := by
  induction h with
  | refl => exact hcall
  | tail _ hstep ih => exact ih.step hstep

/-- An operator on a field that goes through adds its condition with a model for each
relation. -/
theorem InPlace.exists_builds (hcall : call.InPlace r g)
    (hkey : r.registry.contains call.key = true)
    (hrun : (call.run r g dialect).1 = .ok ()) : ∃ i, call.Builds r g dialect i := by
  obtain ⟨c, key, f⟩ := call
  have hc : c.OnField g := (inPlace_operator_iff hkey).mp hcall
  obtain ⟨e, he⟩ := Option.isSome_iff_exists.mp hkey
  have hdispatch := r.dispatch_of_lookup g dialect he f
  obtain ⟨x, hleaf⟩ | ⟨column, relations, condition, events, hpath, hleaf⟩ :=
    r.applyLeaf_cases g dialect e f c
  · simp only [run, hdispatch, hleaf] at hrun
    cases hrun
  · have hlength : c.owners.length = relations.length := by
      have honField := hc.length_eq
      rw [Path.length, hpath, List.length_append, List.length_singleton] at honField
      omega
    refine ⟨⟨relations, c.owners, hlength, condition⟩, hkey, ⟨column, hpath⟩, rfl, hrun, ?_⟩
    simp only [run, hdispatch, hleaf]
    rfl

end Call

/-! ## What calls add to the plan -/

namespace Walk

variable {M : Type} (r : Resolver) (g : ModelGraph M) (dialect : Dialect) {calls : Call M → Prop}
  {w next : Walk M Unit} {c : Cursor M}

/-- All that a walk adds to the plan is added by operators among some calls. -/
def Built (calls : Call M → Prop) (w : Walk M Unit) (c : Cursor M) : Prop :=
  ∃ is : List (Insertion M), (run w c).2.plan = c.plan.addAll is ∧
    ∀ i ∈ is, ∃ call, calls call ∧ call.Builds r g dialect i

variable {r g dialect}

/-- A step that leaves the plan as it was builds nothing. -/
theorem built_of_plan_eq (h : (run w c).2.plan = c.plan) : Built r g dialect calls w c :=
  ⟨[], by rw [h, Plan.addAll_nil], fun _ hi => absurd hi List.not_mem_nil⟩

/-- What some calls build is built by more calls as well. -/
theorem Built.mono {others : Call M → Prop} (h : Built r g dialect calls w c)
    (hcalls : ∀ call, calls call → others call) : Built r g dialect others w c := by
  obtain ⟨is, hplan, hbuilds⟩ := h
  refine ⟨is, hplan, fun i hi => ?_⟩
  obtain ⟨call, hcall, hi⟩ := hbuilds i hi
  exact ⟨call, hcalls call hcall, hi⟩

/-- Of two steps the plan has what both build, one after the other. -/
theorem Built.bind (hw : Built r g dialect calls w c)
    (hnext : ∀ d, run w c = (.ok (), d) → Built r g dialect calls next d) :
    Built r g dialect calls (do w; next) c := by
  obtain ⟨is, hplan, hbuilds⟩ := hw
  cases hrun : run w c with
  | mk outcome d =>
      have hbind := run_bind w (fun _ => next) c
      rw [hrun] at hplan hbind
      cases outcome with
      | error e =>
          refine ⟨is, ?_, hbuilds⟩
          rw [hbind]
          exact hplan
      | ok u =>
          obtain ⟨js, hplan', hbuilds'⟩ := hnext d hrun
          refine ⟨is ++ js, ?_, fun i hi => ?_⟩
          · rw [hbind]
            simp only at hplan ⊢
            rw [hplan', hplan, Plan.addAll_append]
          · exact (List.mem_append.mp hi).elim (hbuilds i) (hbuilds' i)

/-- A step further down builds what it builds there. -/
theorem Built.below {name : String} (h : Built r g dialect calls w (c.push name)) :
    Built r g dialect calls (below name w) c := h

/-- A step across a relation builds what it builds on the related model. -/
theorem Built.across {name : String} {m : M} {join : Join}
    (hrel : g.relation c.current name = some (m, join))
    (h : Built r g dialect calls w (c.enter m)) :
    Built r g dialect calls (across g name w) c := by
  obtain ⟨is, hplan, hbuilds⟩ := h
  refine ⟨is, ?_, hbuilds⟩
  rw [run_across hrel, ← show (c.enter m).plan = c.plan from rfl, ← hplan, Cursor.leave]
  cases (run w (c.enter m)).2.owners.getLast? <;> rfl

end Walk

namespace Resolver

variable {M : Type} (r : Resolver) (g : ModelGraph M) (dialect : Dialect)

open Walk (Built built_of_plan_eq)
open Call (Reaches Makes)

/-- Entries in two parts are resolved in turn. -/
theorem entriesUnder_append (field : String) (xs ys : List (String × Filter)) :
    r.entriesUnder g dialect field (xs ++ ys) =
      (do r.entriesUnder g dialect field xs; r.entriesUnder g dialect field ys) := by
  induction xs with
  | nil => rw [List.nil_append, entriesUnder, pure_bind]
  | cons e xs ih =>
      obtain ⟨key, f⟩ := e
      simp only [List.cons_append, entriesUnder, ih, bind_assoc]

/-- Entries that have gone through, and one more. -/
theorem run_entriesUnder_concat {field key : String} {f : Filter} {c d d' : Cursor M}
    {before : List (String × Filter)}
    (hbefore : Walk.run (r.entriesUnder g dialect field before) c = (.ok (), d))
    (hentry : g.checkEntry d.current field key = .ok ())
    (hrun : Walk.run (Walk.below field <| if r.registry.contains key then
        r.dispatch g dialect key f
      else Walk.across g field (r.dispatch g dialect key f)) d = (.ok (), d')) :
    Walk.run (r.entriesUnder g dialect field (before ++ [(key, f)])) c = (.ok (), d') := by
  have hcheck : Walk.run (checkEntry g field key) d = (.ok (), d) := by
    rw [← hentry]
    rfl
  rw [entriesUnder_append, Walk.run_bind, hbefore]
  simp only [entriesUnder, Walk.run_bind, hcheck, hrun, Walk.run_pure]

/-- An operator on a field adds one condition, or none. -/
theorem built_operator {c : Cursor M} (hc : c.OnField g) {key : String}
    (hkey : r.registry.contains key = true) (f : Filter) :
    Built r g dialect (· = ⟨c, key, f⟩) (r.dispatch g dialect key f) c := by
  have hcall : (⟨c, key, f⟩ : Call M).InPlace r g := (Call.inPlace_operator_iff hkey).mpr hc
  obtain ⟨e, he⟩ := Option.isSome_iff_exists.mp hkey
  obtain ⟨x, hleaf⟩ | ⟨column, relations, condition, events, -, hleaf⟩ :=
    r.applyLeaf_cases g dialect e f c
  · refine built_of_plan_eq ?_
    rw [dispatch_of_lookup r g dialect he, hleaf]
  · have hrun : ((⟨c, key, f⟩ : Call M).run r g dialect).1 = .ok () := by
      rw [Call.run, dispatch_of_lookup r g dialect he, hleaf]
    obtain ⟨i, hi⟩ := hcall.exists_builds hkey hrun
    exact ⟨[i], hi.plan_eq, fun j hj => ⟨_, rfl, List.mem_singleton.mp hj ▸ hi⟩⟩

mutual

/-- What a call on a model adds to the plan is what the operators that it reaches add. -/
theorem built_dispatch (field : String) (hfield : r.registry.contains field = false) :
    (f : Filter) → (c : Cursor M) → c.Balanced g →
    Built r g dialect (Reaches r g dialect ⟨c, field, f⟩) (r.dispatch g dialect field f) c
  | .leaf v, c, _ => by
      have hlookup := r.lookup_eq_none_of_not_contains hfield
      rw [dispatch, hlookup]
      exact built_of_plan_eq rfl
  | .group entries, c, hc => by
      have hlookup := r.lookup_eq_none_of_not_contains hfield
      rw [dispatch, hlookup]
      by_cases hempty : entries.isEmpty = true
      · simp only [if_pos hempty]
        exact built_of_plan_eq rfl
      · simp only [if_neg hempty]
        exact built_entriesUnder field hfield c hc entries [] c (by rw [entriesUnder]; rfl)

/-- What the entries of a group add behind those that have gone through already. -/
theorem built_entriesUnder (field : String) (hfield : r.registry.contains field = false)
    (c : Cursor M) (hc : c.Balanced g) : (entries before : List (String × Filter)) →
    (d : Cursor M) → Walk.run (r.entriesUnder g dialect field before) c = (.ok (), d) →
    Built r g dialect (Reaches r g dialect ⟨c, field, .group (before ++ entries)⟩)
      (r.entriesUnder g dialect field entries) d
  | [], before, d, _ => by
      rw [entriesUnder]
      exact built_of_plan_eq rfl
  | (key, f) :: rest, before, d, hbefore => by
      have hd := hc.of_samePlace (r.samePlace_entriesUnder g dialect hbefore)
      rw [entriesUnder]
      refine Built.bind (built_of_plan_eq rfl) fun d₁ hcheck => ?_
      obtain ⟨hentry, hsame⟩ := Prod.mk.inj hcheck
      subst hsame
      refine Built.bind ?_ fun d' hrun => ?_
      · cases hkey : r.registry.contains key with
        | true =>
            have hmakes : Makes r g dialect ⟨c, field, .group (before ++ (key, f) :: rest)⟩
                ⟨d.push field, key, f⟩ := .operator hfield hbefore hentry hkey
            rw [if_pos rfl]
            exact (built_operator r g dialect (hd.push field) hkey f).below.mono
              fun call hcall => hcall ▸ Relation.ReflTransGen.single hmakes
        | false =>
            rw [if_neg Bool.false_ne_true]
            cases hrel : g.relation d.current field with
            | none =>
                have hrun : Walk.Gathers r.tracing (Walk.below field (Walk.across g field
                    (r.dispatch g dialect key f))) d _ :=
                  Walk.gathers_below_across_none _ hrel
                refine built_of_plan_eq ?_
                rw [hrun]
                rfl
            | some target =>
                obtain ⟨m, join⟩ := target
                have hmakes : Makes r g dialect ⟨c, field, .group (before ++ (key, f) :: rest)⟩
                    ⟨(d.push field).enter m, key, f⟩ := .relation hfield hbefore hentry hkey hrel
                have hf := built_dispatch key hkey f _ (hd.enter hrel)
                have hacross := Built.across (c := d.push field) hrel hf
                exact hacross.below.mono fun call hcall => .head hmakes hcall
      · have hconcat := r.run_entriesUnder_concat g dialect hbefore hentry hrun
        have hrest := built_entriesUnder field hfield c hc rest (before ++ [(key, f)]) d' hconcat
        rwa [List.append_assoc] at hrest

end

/-! ## A walk keeps its cursor in order -/

/-- How the calls of a resolver use their cursors. -/
structure Disciplined (r : Resolver) (g : ModelGraph M) (dialect : Dialect) : Prop where
  /-- Every call comes back to where it started, whether it goes through or fails. -/
  comes_back : ∀ call : Call M, call.cursor.SamePlace (call.run r g dialect).2
  /-- A walk starts on a model, -/
  start : ∀ m key f, r.registry.contains key = false →
    (⟨.start m, key, f⟩ : Call M).InPlace r g
  /-- and does nothing where its first key is an operator. -/
  start_operator : ∀ m key f, r.registry.contains key = true →
    ∃ x, (⟨.start m, key, f⟩ : Call M).run r g dialect = (.error x, .start m)
  /-- From a call on a model every key that is an operator is called on a field, and every other
  key on a model, at any depth. -/
  in_place : ∀ call inner : Call M, call.InPlace r g → call.Reaches r g dialect inner →
    inner.InPlace r g
  /-- There the path has one name more than there are models left behind, and every operator
  that goes through adds its condition with a model for each relation. -/
  builds : ∀ call inner : Call M, call.InPlace r g → call.Reaches r g dialect inner →
    r.registry.contains inner.key = true → (inner.run r g dialect).1 = .ok () →
      inner.cursor.OnField g ∧ ∃ i, inner.Builds r g dialect i
  /-- Nothing else is ever added to the plan, whether the call goes through or fails. -/
  adds : ∀ call : Call M, call.InPlace r g →
    ∃ is : List (Insertion M), (call.run r g dialect).2.plan = call.cursor.plan.addAll is ∧
      ∀ i ∈ is, ∃ inner, call.Reaches r g dialect inner ∧ inner.Builds r g dialect i

/-- Whatever the registry and the models are, a walk keeps its cursor in order. -/
theorem disciplined (r : Resolver) (g : ModelGraph M) (dialect : Dialect) :
    r.Disciplined g dialect := by
  constructor
  case comes_back =>
    intro call
    exact r.samePlace_dispatch g dialect call.cursor call.key call.filter
  case start =>
    intro m key f hkey
    exact (Call.inPlace_relation_iff hkey).mpr (Cursor.balanced_start g m)
  case start_operator =>
    intro m key f hkey
    obtain ⟨e, he⟩ := Option.isSome_iff_exists.mp hkey
    exact ⟨_, r.run_dispatch_operator g dialect he f m⟩
  case in_place =>
    intro call inner hcall hreach
    exact hcall.reach hreach
  case builds =>
    intro call inner hcall hreach hkey hrun
    have hinner := hcall.reach hreach
    exact ⟨(Call.inPlace_operator_iff hkey).mp hinner, hinner.exists_builds hkey hrun⟩
  case adds =>
    intro call hcall
    obtain ⟨c, key, f⟩ := call
    cases hkey : r.registry.contains key with
    | true =>
        have hc : c.OnField g := (Call.inPlace_operator_iff hkey).mp hcall
        exact (built_operator r g dialect hc hkey f).mono fun inner hinner => hinner ▸ .refl
    | false =>
        have hc : c.Balanced g := (Call.inPlace_relation_iff hkey).mp hcall
        exact built_dispatch r g dialect key hkey f c hc

end Resolver

/-- Books by title, asked for by authors: the operator is called on the title, below the
relation to the books, and the walk comes back to where it started. -/
theorem Engine.disciplined_library :
    let graph : ModelGraph (Fin 2) := library.catalog.graph
    let title : Filter := .group [("$eq", .leaf (.text "Orlando"))]
    let call : Call (Fin 2) := ⟨.start 0, "books", .group [("title", title)]⟩
    let inner : Call (Fin 2) :=
      ⟨(((Cursor.start 0).push "books").enter 1).push "title", "$eq", .leaf (.text "Orlando")⟩
    call.InPlace library.resolver graph ∧ call.Reaches library.resolver graph .postgres inner ∧
      library.resolver.registry.contains inner.key = true ∧
      (inner.run library.resolver graph .postgres).1 = .ok () ∧
      inner.InPlace library.resolver graph ∧ inner.cursor.OnField graph ∧
      (∃ i, inner.Builds library.resolver graph .postgres i) ∧
      call.cursor.SamePlace (call.run library.resolver graph .postgres).2 := by
  intro graph title call inner
  have h := Resolver.disciplined library.resolver graph .postgres
  have hcall : call.InPlace library.resolver graph := h.start 0 "books" _ rfl
  have hbooks : Call.Makes library.resolver graph .postgres
      ⟨.start 0, "books", .group ([] ++ ("title", title) :: [])⟩
      ⟨((Cursor.start 0).push "books").enter 1, "title", title⟩ := .relation rfl rfl rfl rfl rfl
  have htitle : Call.Makes library.resolver graph .postgres
      ⟨((Cursor.start 0).push "books").enter 1, "title",
        .group ([] ++ ("$eq", .leaf (.text "Orlando")) :: [])⟩ inner := .operator rfl rfl rfl rfl
  have hreach : call.Reaches library.resolver graph .postgres inner := .head hbooks (.single htitle)
  have hrun : (inner.run library.resolver graph .postgres).1 = .ok () := rfl
  obtain ⟨hfield, hbuilds⟩ := h.builds call inner hcall hreach rfl hrun
  exact ⟨hcall, hreach, rfl, hrun, h.in_place call inner hcall hreach, hfield, hbuilds,
    h.comes_back call⟩

end Sift
