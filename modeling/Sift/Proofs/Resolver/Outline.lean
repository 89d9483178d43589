import Sift.Proofs.Engine.Filter
import Sift.Proofs.Filter.Distinct

/-!
# Sift.Proofs.Resolver.Outline

The plan of a filter, said by recursion on the filter: no cursor, no scope that is looked
for by its name.  At each level stands a condition for every operator, and one scope for
the field itself if there is any other key; the scope stands where the first such key
does and holds what all of them ask for.

Main statement: `resolve_ok_iff_and_outline` — resolving succeeds exactly on the filters
that are accepted, and its plan is the outline of the filter.
-/

namespace Sift

namespace Resolver

variable {M : Type}

/-! ## Outlines -/

/-- The condition that an operator makes of a field, if it takes the arguments. -/
def operatorEntry (dialect : Dialect) (field : String) (e : Registry.Entry) (f : Filter) :
    List (Plan.Entry M) :=
  match f.arguments? with
  | none => []
  | some arguments =>
    match e.build field arguments dialect with
    | .ok c => [.condition c]
    | .error _ => []

/-- The conditions of the operators among the entries under a field. -/
def operatorEntries (r : Resolver) (dialect : Dialect) (field : String) :
    List (String × Filter) → List (Plan.Entry M)
  | [] => []
  | (key, f) :: rest =>
    (match r.registry.lookup key with
      | some e => operatorEntry dialect field e f
      | none => []) ++ operatorEntries r dialect field rest

/-- The conditions of the operators among the entries under a field, with the scope of the
field where the first other key stands. -/
def level (r : Resolver) (dialect : Dialect) (field : String) (scope : Plan.Entry M) :
    List (String × Filter) → List (Plan.Entry M)
  | [] => []
  | (key, f) :: rest =>
    match r.registry.lookup key with
    | some e => operatorEntry dialect field e f ++ level r dialect field scope rest
    | none => scope :: operatorEntries r dialect field rest

mutual

/-- The plan of what stands under a field of a model. -/
def outline (r : Resolver) (g : ModelGraph M) (dialect : Dialect) (m : M) (field : String) :
    Filter → List (Plan.Entry M)
  | .leaf _ => []
  | .group entries =>
    level r dialect field (.related field m (outlineInside r g dialect m field entries)) entries

/-- The plan of what the entries under a field ask of the model that the field leads to. -/
def outlineInside (r : Resolver) (g : ModelGraph M) (dialect : Dialect) (m : M)
    (field : String) : List (String × Filter) → List (Plan.Entry M)
  | [] => []
  | (key, f) :: rest =>
    (match r.registry.lookup key with
      | some _ => []
      | none =>
        match g.relation m field with
        | none => []
        | some (related, _) => outline r g dialect related key f) ++
    outlineInside r g dialect m field rest

end

/-! ## What is gathered of accepted entries -/

section Accepted

variable {r : Resolver} {g : ModelGraph M} {dialect : Dialect} {m : M} {field key : String}
  {f : Filter} {rest : List (String × Filter)}

/-- The entry of an operator is the condition that it makes. -/
theorem operatorEntry_of_build {e : Registry.Entry} {arguments : List Value} {c : Condition}
    (hargs : f.arguments? = some arguments) (hbuild : e.build field arguments dialect = .ok c) :
    (operatorEntry dialect field e f : List (Plan.Entry M)) = [.condition c] := by
  simp [operatorEntry, hargs, hbuild]

/-- An operator that is accepted gathers one condition. -/
theorem placements_gatherEach_operator {e : Registry.Entry} {arguments : List Value}
    {c : Condition} (hpermits : g.Permits m field key) (hkey : r.registry.lookup key = some e)
    (hargs : f.arguments? = some arguments) (hbuild : e.build field arguments dialect = .ok c) :
    (r.gatherEach g dialect m field ((key, f) :: rest)).placements =
      ⟨[], e.symbol, field, c⟩ :: (r.gatherEach g dialect m field rest).placements := by
  have hcheck := ModelGraph.checkEntry_eq_ok_iff.mpr hpermits
  rw [gatherEach, Gathered.placements_andThen_of_ok hcheck, hkey]
  simp only [place, hargs, hbuild, Except.map]
  rw [Gathered.placements_andThen_of_ok rfl]
  rfl

/-- A relation that is accepted gathers what there is on the model that it leads to. -/
theorem placements_gatherEach_relation {related : M} {join : Join}
    (hpermits : g.Permits m field key) (hkey : r.registry.lookup key = none)
    (hrel : g.relation m field = some (related, join))
    (haccepts : r.Accepts g dialect related key f) :
    (r.gatherEach g dialect m field ((key, f) :: rest)).placements =
      (r.gather g dialect related key f).placements.map (Placement.under field m) ++
        (r.gatherEach g dialect m field rest).placements := by
  have hcheck := ModelGraph.checkEntry_eq_ok_iff.mpr hpermits
  have hf : ((r.gather g dialect related key f).under field m).outcome = .ok () :=
    (outcome_gather_eq_ok_iff r g dialect related key hkey f).mpr haccepts
  rw [gatherEach, Gathered.placements_andThen_of_ok hcheck, hkey, hrel]
  simp only
  rw [Gathered.placements_andThen_of_ok hf]
  rfl

end Accepted

/-- Something is gathered of every filter that is accepted. -/
theorem placements_gather_ne_nil {r : Resolver} {g : ModelGraph M} {dialect : Dialect} :
    {m : M} → {field : String} → {f : Filter} → r.Accepts g dialect m field f →
    (r.gather g dialect m field f).placements ≠ []
  | m, field, .group ((key, f) :: rest), h => by
      rw [Accepts, AcceptsEach] at h
      obtain ⟨-, -, hpermits, hf, -⟩ := h
      rw [gather, if_neg (by simp)]
      cases hkey : r.registry.lookup key with
      | some e =>
          rw [hkey] at hf
          obtain ⟨arguments, c, hargs, hbuild⟩ := hf
          rw [placements_gatherEach_operator hpermits hkey hargs hbuild]
          simp
      | none =>
          rw [hkey] at hf
          obtain ⟨related, join, hrel, haccepts⟩ := hf
          rw [placements_gatherEach_relation hpermits hkey hrel haccepts]
          simp [placements_gather_ne_nil haccepts]
  | m, field, .group [], h => by simp [Accepts] at h
  | m, field, .leaf v, h => by simp [Accepts] at h

/-! ## Scopes of an outline -/

section Names

variable (r : Resolver) (g : ModelGraph M) (dialect : Dialect)

@[simp] theorem scopeNames_operatorEntry (field : String) (e : Registry.Entry) (f : Filter) :
    Plan.scopeNames (operatorEntry dialect field e f : List (Plan.Entry M)) = [] := by
  unfold operatorEntry
  split
  · rfl
  · split <;> rfl

@[simp] theorem scopeNames_operatorEntries (field : String) (entries : List (String × Filter)) :
    Plan.scopeNames (r.operatorEntries dialect field entries : List (Plan.Entry M)) = [] := by
  induction entries with
  | nil => rfl
  | cons e rest ih =>
      rw [operatorEntries, Plan.scopeNames_append, ih]
      cases r.registry.lookup e.1 <;> simp

/-- The only scope at the top of an outline is that of the field. -/
theorem eq_of_mem_scopeNames_outline {m : M} {field name : String} {f : Filter}
    (h : name ∈ Plan.scopeNames (r.outline g dialect m field f)) : name = field := by
  cases f with
  | leaf v => simp [outline] at h
  | group entries =>
      rw [outline] at h
      generalize outlineInside r g dialect m field entries = inner at h
      induction entries with
      | nil => simp [level] at h
      | cons e rest ih =>
          rw [level] at h
          cases hkey : r.registry.lookup e.1 with
          | some o => exact ih (by simpa [hkey] using h)
          | none => simpa [hkey] using h

end Names

/-! ## Plans are outlines -/

section Insertion

variable (r : Resolver) (g : ModelGraph M) (dialect : Dialect)

mutual

/-- What is gathered under a field makes the outline, after entries that have no scope of
the field's name. -/
theorem insertEach_gather (m : M) (field : String) : (f : Filter) →
    r.Accepts g dialect m field f → f.Distinct → (es : List (Plan.Entry M)) →
    field ∉ Plan.scopeNames es →
    Plan.insertEach es (r.gather g dialect m field f).placements =
      es ++ r.outline g dialect m field f
  | .leaf v, haccepts, _, es, _ => by simp [Accepts] at haccepts
  | .group entries, haccepts, hdistinct, es, hfresh => by
      rw [Accepts] at haccepts
      rw [Filter.Distinct] at hdistinct
      rw [gather, if_neg (by simpa using haccepts.2.1), outline]
      exact insertEach_gatherEach m field entries haccepts.2.2 hdistinct.1 hdistinct.2 es hfresh

/-- As long as the field has no scope yet, the conditions of its operators follow each
other. -/
theorem insertEach_gatherEach (m : M) (field : String) : (entries : List (String × Filter)) →
    r.AcceptsEach g dialect m field entries → (Keyed.keys entries).Nodup →
    Filter.DistinctEach entries → (es : List (Plan.Entry M)) → field ∉ Plan.scopeNames es →
    Plan.insertEach es (r.gatherEach g dialect m field entries).placements =
      es ++ r.level dialect field
        (.related field m (r.outlineInside g dialect m field entries)) entries
  | [], _, _, _, es, _ => by simp [gatherEach, level]
  | (key, f) :: rest, haccepts, hnodup, hdistinct, es, hfresh => by
      rw [AcceptsEach] at haccepts
      obtain ⟨hpermits, hf, hrest⟩ := haccepts
      rw [Keyed.keys_cons, List.nodup_cons] at hnodup
      rw [Filter.DistinctEach] at hdistinct
      rw [level, outlineInside]
      cases hkey : r.registry.lookup key with
      | some e =>
          rw [hkey] at hf
          obtain ⟨arguments, c, hargs, hbuild⟩ := hf
          have hfresh' : field ∉ Plan.scopeNames (es ++ [.condition c]) := by simpa using hfresh
          have ih := insertEach_gatherEach m field rest hrest hnodup.2 hdistinct.2 _ hfresh'
          rw [placements_gatherEach_operator hpermits hkey hargs hbuild, Plan.insertEach_cons]
          simp only [operatorEntry_of_build hargs hbuild]
          simpa [Plan.insertInto, Placement.relations] using ih
      | none =>
          rw [hkey] at hf
          obtain ⟨related, join, hrel, hrelated⟩ := hf
          have hinner : Plan.insertEach [] (r.gather g dialect related key f).placements =
              r.outline g dialect related key f :=
            insertEach_gather related key f hrelated hdistinct.1 [] (by simp)
          have hother : ∀ k ∈ Keyed.keys rest,
              k ∉ Plan.scopeNames (r.outline g dialect related key f) := by
            intro k hk hmem
            have heq := eq_of_mem_scopeNames_outline r g dialect hmem
            exact hnodup.1 (heq ▸ hk)
          have ih := insertEach_gatherEach_after m field rest hrest hnodup.2 hdistinct.2 es m
            (r.outline g dialect related key f) [] hfresh hother
          rw [placements_gatherEach_relation hpermits hkey hrel hrelated, Plan.insertEach_append,
            Plan.insertEach_under_of_not_mem hfresh m (placements_gather_ne_nil hrelated),
            hinner, ih]
          simp [hrel]

/-- Once the field has a scope, the conditions of its operators follow that scope, and
everything else goes into it. -/
theorem insertEach_gatherEach_after (m : M) (field : String) :
    (entries : List (String × Filter)) → r.AcceptsEach g dialect m field entries →
    (Keyed.keys entries).Nodup → Filter.DistinctEach entries →
    (before : List (Plan.Entry M)) → (owner : M) → (inner after : List (Plan.Entry M)) →
    field ∉ Plan.scopeNames before →
    (∀ key ∈ Keyed.keys entries, key ∉ Plan.scopeNames inner) →
    Plan.insertEach (before ++ .related field owner inner :: after)
        (r.gatherEach g dialect m field entries).placements =
      before ++ .related field owner (inner ++ r.outlineInside g dialect m field entries) ::
        (after ++ r.operatorEntries dialect field entries)
  | [], _, _, _, before, owner, inner, after, _, _ => by
      simp [gatherEach, outlineInside, operatorEntries]
  | (key, f) :: rest, haccepts, hnodup, hdistinct, before, owner, inner, after, hfresh, hother => by
      rw [AcceptsEach] at haccepts
      obtain ⟨hpermits, hf, hrest⟩ := haccepts
      rw [Keyed.keys_cons, List.nodup_cons] at hnodup
      rw [Filter.DistinctEach] at hdistinct
      rw [outlineInside, operatorEntries]
      cases hkey : r.registry.lookup key with
      | some e =>
          rw [hkey] at hf
          obtain ⟨arguments, c, hargs, hbuild⟩ := hf
          have hother' : ∀ k ∈ Keyed.keys rest, k ∉ Plan.scopeNames inner :=
            fun k hk => hother k (by simp [hk])
          have ih := insertEach_gatherEach_after m field rest hrest hnodup.2 hdistinct.2 before
            owner inner (after ++ [.condition c]) hfresh hother'
          rw [placements_gatherEach_operator hpermits hkey hargs hbuild, Plan.insertEach_cons]
          simp only [operatorEntry_of_build hargs hbuild]
          simpa [Plan.insertInto, Placement.relations] using ih
      | none =>
          rw [hkey] at hf
          obtain ⟨related, join, hrel, hrelated⟩ := hf
          have hinner : Plan.insertEach inner (r.gather g dialect related key f).placements =
              inner ++ r.outline g dialect related key f :=
            insertEach_gather related key f hrelated hdistinct.1 inner (hother key (by simp))
          have hother' : ∀ k ∈ Keyed.keys rest,
              k ∉ Plan.scopeNames (inner ++ r.outline g dialect related key f) := by
            intro k hk hmem
            rw [Plan.scopeNames_append, List.mem_append] at hmem
            rcases hmem with hmem | hmem
            · exact hother k (by simp [hk]) hmem
            · have heq := eq_of_mem_scopeNames_outline r g dialect hmem
              exact hnodup.1 (heq ▸ hk)
          have ih := insertEach_gatherEach_after m field rest hrest hnodup.2 hdistinct.2 before
            owner (inner ++ r.outline g dialect related key f) after hfresh hother'
          rw [placements_gatherEach_relation hpermits hkey hrel hrelated, Plan.insertEach_append,
            Plan.insertEach_under_of_mem hfresh, hinner, ih]
          simp [hrel]

end

end Insertion

/-- What is gathered of an accepted filter makes its outline. -/
theorem outline_of_placements {r : Resolver} {g : ModelGraph M} {dialect : Dialect} {m : M}
    {field : String} {f : Filter} (haccepts : r.Accepts g dialect m field f)
    (hdistinct : f.Distinct) :
    (Plan.ofPlacements (r.gather g dialect m field f).placements).entries =
      r.outline g dialect m field f := by
  rw [Plan.entries_ofPlacements,
    insertEach_gather r g dialect m field f haccepts hdistinct [] (by simp), List.nil_append]

/-- Resolving succeeds exactly on the filters that are accepted: the search for an operator
within reach refuses no filter that the walk would go through.  The plan of a filter with
distinct keys is its outline. -/
theorem resolve_ok_iff_and_outline (r : Resolver) (g : ModelGraph M) (m : M) (dialect : Dialect)
    (field : String) (f : Filter) :
    ((∃ p, (r.resolve g m dialect field f).outcome = .ok p) ↔ r.Accepts g dialect m field f) ∧
    ((Walk.run (r.dispatch g dialect field f) (Cursor.start m)).1 = .ok () →
      r.validate f = .ok ()) ∧
    (f.Distinct → ∀ p, (r.resolve g m dialect field f).outcome = .ok p →
      p.entries = r.outline g dialect m field f) := by
  refine ⟨?_, ?_, ?_⟩
  · constructor
    · rintro ⟨p, hp⟩
      exact (outcome_resolve_eq_ok_iff.mp hp).1
    · intro haccepts
      exact ⟨_, outcome_resolve_eq_ok_iff.mpr ⟨haccepts, rfl⟩⟩
  · intro hrun
    cases hfield : r.registry.lookup field with
    | some e =>
        rw [run_dispatch_operator r g dialect hfield] at hrun
        contradiction
    | none =>
        rw [run_dispatch_start r g dialect hfield] at hrun
        exact validate_of_accepts
          ((outcome_gather_eq_ok_iff r g dialect m field hfield f).mp hrun)
  · intro hdistinct p hp
    obtain ⟨haccepts, rfl⟩ := outcome_resolve_eq_ok_iff.mp hp
    exact outline_of_placements haccepts hdistinct

end Resolver

/-- Authors of a book with a title and an author of its own: the filter is accepted, and its
plan is its outline. -/
theorem Engine.outline_library :
    let f : Filter := .group
      [("title", .entry "$like" (.leaf (.text "O%"))),
        ("author", .entry "name" (.entry "$eq" (.leaf (.text "Woolf"))))]
    ∃ p, f.Distinct ∧
      (library.resolver.resolve library.catalog.graph (0 : Fin 2) .postgres "books" f).outcome =
        .ok p ∧
      library.resolver.Accepts library.catalog.graph .postgres (0 : Fin 2) "books" f ∧
      library.resolver.validate f = .ok () ∧
      p.entries = library.resolver.outline library.catalog.graph .postgres (0 : Fin 2) "books" f := by
  intro f
  have hdistinct : f.Distinct := by simp [f, Filter.entry, Filter.Distinct, Filter.DistinctEach]
  have hp : (library.resolver.resolve library.catalog.graph (0 : Fin 2) .postgres "books"
      f).outcome = .ok _ := rfl
  obtain ⟨haccepts, hvalidate, houtline⟩ := Resolver.resolve_ok_iff_and_outline library.resolver
    library.catalog.graph (0 : Fin 2) .postgres "books" f
  exact ⟨_, hdistinct, hp, haccepts.mp ⟨_, hp⟩, hvalidate rfl, houtline hdistinct _ hp⟩

end Sift
