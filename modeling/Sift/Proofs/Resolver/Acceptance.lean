import Sift.Proofs.Resolver.Gather

/-!
# Sift.Proofs.Resolver.Acceptance

Which filters can be resolved, said by recursion on the filter.

Main statements:

* `outcome_gather_eq_ok_iff` — gathering goes through exactly on the filters that are
  accepted;
* `validate_of_accepts` — in a filter that is accepted an operator can be reached;
* `outcome_resolve_eq_ok_iff` — so resolving succeeds exactly on the filters that are
  accepted, and its plan is made of what is gathered.
-/

namespace Sift

/-! ## How gathering ends -/

namespace Gathered

variable {M : Type}

@[simp] theorem outcome_check (outcome : Except Fault Unit) :
    (check outcome : Gathered M).outcome = outcome := rfl

@[simp] theorem placements_check (outcome : Except Fault Unit) :
    (check outcome : Gathered M).placements = [] := rfl

@[simp] theorem outcome_under (name : String) (owner : M) (x : Gathered M) :
    (x.under name owner).outcome = x.outcome := rfl

@[simp] theorem placements_under (name : String) (owner : M) (x : Gathered M) :
    (x.under name owner).placements = x.placements.map (Placement.under name owner) := rfl

/-- One placement is gathered if it can be made. -/
theorem outcome_one_eq_ok_iff {p : Except Fault (Placement M)} :
    (one p).outcome = .ok () ↔ ∃ x, p = .ok x := by
  cases p <;> simp [one]

/-- Two parts go through when both do. -/
theorem outcome_andThen_eq_ok_iff {x y : Gathered M} :
    (x.andThen y).outcome = .ok () ↔ x.outcome = .ok () ∧ y.outcome = .ok () := by
  obtain ⟨ps, outcome⟩ := x
  cases outcome <;> simp [andThen]

/-- Behind what goes through, the rest is gathered too. -/
theorem placements_andThen_of_ok {x : Gathered M} (hx : x.outcome = .ok ()) (y : Gathered M) :
    (x.andThen y).placements = x.placements ++ y.placements := by
  obtain ⟨ps, outcome⟩ := x
  subst hx
  rfl

theorem mem_placements_one {p : Except Fault (Placement M)} {x : Placement M} :
    x ∈ (one p).placements ↔ p = .ok x := by
  cases p <;> simp [one, eq_comm]

/-- What two parts gather comes from one of them. -/
theorem mem_or_mem_of_mem_andThen {x y : Gathered M} {p : Placement M}
    (hp : p ∈ (x.andThen y).placements) : p ∈ x.placements ∨ p ∈ y.placements := by
  obtain ⟨ps, outcome⟩ := x
  cases outcome with
  | error e => exact Or.inl hp
  | ok u => exact List.mem_append.mp hp

end Gathered

/-! ## Acceptance -/

namespace ModelGraph

variable {M : Type}

/-- A field can be filtered and is not restricted to other keys. -/
def Permits (g : ModelGraph M) (m : M) (field key : String) : Prop :=
  field ∈ g.fields m ∧ ∀ allowed, g.allowed m field = some allowed → key ∈ allowed

/-- A field may be filtered by a key exactly if the model permits it. -/
theorem checkEntry_eq_ok_iff {g : ModelGraph M} {m : M} {field key : String} :
    g.checkEntry m field key = .ok () ↔ g.Permits m field key := by
  have hfield : g.isFilterable m field = true ↔ field ∈ g.fields m := by
    simp [isFilterable]
  by_cases hf : field ∈ g.fields m
  · simp only [checkEntry, checkField, if_pos (hfield.mpr hf), Permits, hf, true_and]
    cases hallowed : g.allowed m field with
    | none => simp [bind, Except.bind, checkOperator, hallowed]
    | some allowed => simp [bind, Except.bind, checkOperator, hallowed]
  · have hno : ¬ g.isFilterable m field = true := fun h => hf (hfield.mp h)
    simp [checkEntry, checkField, if_neg hno, Permits, hf, bind, Except.bind]

end ModelGraph

namespace Resolver

variable {M : Type}

/-- An operator makes a condition on a field of the arguments in a filter. -/
def Takes (dialect : Dialect) (field : String) (e : Registry.Entry) (f : Filter) : Prop :=
  ∃ arguments condition,
    f.arguments? = some arguments ∧ e.build field arguments dialect = .ok condition

mutual

/-- A filter can stand under a field of a model.  The field is no operator, there is
something under it, and every key there is permitted: an operator takes its arguments, and
any other key is accepted on the model that the field leads to. -/
def Accepts (r : Resolver) (g : ModelGraph M) (dialect : Dialect) (m : M) (field : String) :
    Filter → Prop
  | .leaf _ => False
  | .group entries =>
    field ∉ r.registry.symbols ∧ entries ≠ [] ∧ AcceptsEach r g dialect m field entries

/-- Every entry can stand under a field of a model. -/
def AcceptsEach (r : Resolver) (g : ModelGraph M) (dialect : Dialect) (m : M) (field : String) :
    List (String × Filter) → Prop
  | [] => True
  | (key, f) :: rest =>
    g.Permits m field key ∧
    (match r.registry.lookup key with
      | some e => Takes dialect field e f
      | none => ∃ related join,
          g.relation m field = some (related, join) ∧ Accepts r g dialect related key f) ∧
    AcceptsEach r g dialect m field rest

end

/-- An operator is looked up under its symbol. -/
theorem lookup_eq_none_iff {r : Registry} {key : String} :
    r.lookup key = none ↔ key ∉ r.symbols := by
  rw [← Registry.contains_iff, Registry.contains]
  cases r.lookup key <;> simp

/-- A symbol that something is found under is registered. -/
theorem mem_symbols_of_lookup {r : Registry} {key : String} {e : Registry.Entry}
    (h : r.lookup key = some e) : key ∈ r.symbols := by
  rw [← Registry.contains_iff, Registry.contains, h]
  rfl

/-- A field with some key that is no operator leads to a model. -/
theorem exists_relation_of_acceptsEach {r : Resolver} {g : ModelGraph M} {dialect : Dialect}
    {m : M} {field : String} {entries : List (String × Filter)}
    (h : r.AcceptsEach g dialect m field entries)
    (hkey : ∃ e ∈ entries, e.1 ∉ r.registry.symbols) :
    ∃ related join, g.relation m field = some (related, join) := by
  induction entries with
  | nil => simp at hkey
  | cons e rest ih =>
      rw [AcceptsEach] at h
      cases hlookup : r.registry.lookup e.1 with
      | none =>
          have hf := h.2.1
          rw [hlookup] at hf
          obtain ⟨related, join, hrel, -⟩ := hf
          exact ⟨related, join, hrel⟩
      | some o =>
          obtain ⟨x, hx, hnot⟩ := hkey
          rcases List.mem_cons.mp hx with rfl | hx
          · exact absurd (mem_symbols_of_lookup hlookup) hnot
          · exact ih h.2.2 ⟨x, hx, hnot⟩

/-- An operator is placed with the condition that it makes of its arguments. -/
theorem place_eq_ok_iff {dialect : Dialect} {field : String} {e : Registry.Entry} {f : Filter}
    {p : Placement M} :
    place dialect field e f = .ok p ↔ ∃ arguments c, f.arguments? = some arguments ∧
      e.build field arguments dialect = .ok c ∧ p = ⟨[], e.symbol, field, c⟩ := by
  cases hargs : f.arguments? with
  | none => simp [place, hargs]
  | some arguments =>
      cases hbuild : e.build field arguments dialect <;>
        simp [place, hargs, hbuild, Except.map, eq_comm]

/-- It can be placed exactly if it takes what stands under it. -/
theorem exists_place_iff {dialect : Dialect} {field : String} {e : Registry.Entry} {f : Filter} :
    (∃ p : Placement M, place dialect field e f = .ok p) ↔ Takes dialect field e f := by
  simp only [place_eq_ok_iff, Takes]
  constructor
  · rintro ⟨p, arguments, c, hargs, hbuild, -⟩
    exact ⟨arguments, c, hargs, hbuild⟩
  · rintro ⟨arguments, c, hargs, hbuild⟩
    exact ⟨_, arguments, c, hargs, hbuild, rfl⟩

mutual

/-- Gathering goes through exactly on the filters that are accepted. -/
theorem outcome_gather_eq_ok_iff (r : Resolver) (g : ModelGraph M) (dialect : Dialect) (m : M)
    (field : String) (hfield : r.registry.lookup field = none) : (f : Filter) →
    ((r.gather g dialect m field f).outcome = .ok () ↔ r.Accepts g dialect m field f)
  | .leaf v => by simp [gather, Accepts]
  | .group entries => by
      have heach := outcome_gatherEach_eq_ok_iff r g dialect m field entries
      rw [gather, Accepts]
      cases entries with
      | nil => simp
      | cons e rest => simpa [lookup_eq_none_iff.mp hfield] using heach

/-- Gathering goes through exactly on the entries that are accepted. -/
theorem outcome_gatherEach_eq_ok_iff (r : Resolver) (g : ModelGraph M) (dialect : Dialect)
    (m : M) (field : String) : (entries : List (String × Filter)) →
    ((r.gatherEach g dialect m field entries).outcome = .ok () ↔
      r.AcceptsEach g dialect m field entries)
  | [] => by simp [gatherEach, AcceptsEach]
  | (key, f) :: rest => by
      have hrest := outcome_gatherEach_eq_ok_iff r g dialect m field rest
      rw [gatherEach, AcceptsEach, Gathered.outcome_andThen_eq_ok_iff,
        Gathered.outcome_andThen_eq_ok_iff, Gathered.outcome_check,
        ModelGraph.checkEntry_eq_ok_iff, hrest]
      cases hkey : r.registry.lookup key with
      | some e => simp only [Gathered.outcome_one_eq_ok_iff, exists_place_iff]
      | none =>
          cases hrel : g.relation m field with
          | none => simp
          | some target =>
              have hf := outcome_gather_eq_ok_iff r g dialect target.1 key hkey f
              simp [← hf, Prod.ext_iff]

end

/-! ## Operators within reach -/

/-- In a filter that is accepted an operator can be reached through first entries. -/
theorem validate_of_accepts {r : Resolver} {g : ModelGraph M} {dialect : Dialect} : {m : M} →
    {field : String} → {f : Filter} → r.Accepts g dialect m field f → r.validate f = .ok ()
  | m, field, .group ((key, f) :: rest), h => by
      rw [validate]
      by_cases hop : r.hasOperator ((key, f) :: rest) = true
      · rw [if_pos hop]
      · rw [if_neg hop, validateFirst]
        rw [Accepts, AcceptsEach] at h
        obtain ⟨-, -, -, hkey, -⟩ := h
        have hnone : r.registry.lookup key = none := by
          have hcontains : r.registry.contains key = false := by
            simp only [hasOperator, List.any_cons, Bool.or_eq_true, not_or] at hop
            simpa using hop.1
          simpa [Registry.contains] using hcontains
        rw [hnone] at hkey
        obtain ⟨related, join, -, haccepts⟩ := hkey
        exact validate_of_accepts haccepts
  | m, field, .group [], h => by simp [Accepts] at h
  | m, field, .leaf v, h => by simp [Accepts] at h

/-- Resolving succeeds exactly on the filters that are accepted, and its plan is made of
what is gathered. -/
theorem outcome_resolve_eq_ok_iff {r : Resolver} {g : ModelGraph M} {m : M} {dialect : Dialect}
    {field : String} {f : Filter} {p : Plan M} :
    (r.resolve g m dialect field f).outcome = .ok p ↔
      r.Accepts g dialect m field f ∧
        p = .ofPlacements (r.gather g dialect m field f).placements := by
  cases hvalid : r.validate f with
  | error e =>
      rw [outcome_resolve_of_invalid r g m dialect field hvalid]
      refine iff_of_false (by simp) ?_
      rintro ⟨haccepts, -⟩
      rw [validate_of_accepts haccepts] at hvalid
      contradiction
  | ok u =>
      cases hfield : r.registry.lookup field with
      | some e =>
          rw [outcome_resolve_operator r g m dialect hfield hvalid]
          refine iff_of_false (by simp) ?_
          rintro ⟨haccepts, -⟩
          cases f with
          | leaf v => simp [Accepts] at haccepts
          | group entries =>
              rw [Accepts, ← lookup_eq_none_iff, hfield] at haccepts
              exact absurd haccepts.1 (by simp)
      | none =>
          rw [resolve_eq r g m dialect hfield hvalid, ← outcome_gather_eq_ok_iff r g dialect m
            field hfield f]
          obtain ⟨ps, outcome⟩ := r.gather g dialect m field f
          cases outcome <;> simp [Except.map, eq_comm]

end Resolver

end Sift
