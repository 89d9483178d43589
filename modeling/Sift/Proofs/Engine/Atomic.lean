import Sift.Proofs.Engine.Filter

/-!
# Sift.Proofs.Engine.Atomic

All or nothing.  A filter can only fail before anything of it is added to a query: every
scope in a plan that has been resolved stands for a relation of the model that it was
recorded for, so that nothing can go wrong while the plan is added.

Main statements:

* `run_addPlans_of_resolveEach` — adding plans that have been resolved cannot fail;
* `allOrNothing` — a filter that fails leaves the query as it was.
-/

namespace Sift

namespace Resolver

variable {M : Type} {r : Resolver} {g : ModelGraph M} {dialect : Dialect} {m : M}
  {field : String} {f : Filter} {p : Plan M}

/-! ## Adding plans that have been resolved -/

/-- Every relation in the plan of a filter is one of the model it was recorded for. -/
theorem supported_of_resolve (h : (r.resolve g m dialect field f).outcome = .ok p) :
    Plan.Supported g p.entries :=
  supported_of_vetted (vetted_of_resolve h)

/-- A plan that has been resolved can be added to any scope. -/
theorem run_apply_of_resolve (h : (r.resolve g m dialect field f).outcome = .ok p) (s : Scope) :
    (s.run (p.apply g)).1 = .ok () := by
  rw [Plan.apply, Plan.run_applyAll g p.entries (supported_of_resolve h)]

/-- So can the plans of several keys, one after the other. -/
theorem run_addPlans_of_resolveEach {entries : List (String × Filter)} {ps : List (Plan M)}
    (h : (r.resolveEach g m dialect entries).outcome = .ok ps) (s : Scope) :
    (s.run (addPlans g ps)).1 = .ok () := by
  obtain ⟨haccepts, rfl⟩ := outcome_resolveEach_eq_ok_iff.mp h
  rw [run_addPlans_of_accepts haccepts]

/-! ## Faults -/

/-- If plans can be added, then a fault comes from before they were. -/
theorem scope_addResolved_of_error {s : Scope} {plans : Reported Fault (List (Plan M))} {e : Fault}
    (hadd : ∀ ps, plans.outcome = .ok ps → (s.run (addPlans g ps)).1 = .ok ())
    (h : (addResolved g s plans).outcome = .error e) : (addResolved g s plans).scope = s := by
  cases hout : plans.outcome with
  | error e' => simp only [addResolved, hout]
  | ok ps =>
      have hok := hadd ps hout
      simp only [addResolved, hout, hok] at h
      cases h

/-- A key that fails leaves the scope as it was. -/
theorem scope_apply_of_error {s : Scope} {e : Fault}
    (h : (r.apply g m s field f).outcome = .error e) : (r.apply g m s field f).scope = s := by
  refine scope_addResolved_of_error (fun ps hps => ?_) h
  obtain ⟨p, hp, hsingle⟩ := Reported.outcome_bind_eq_ok_iff.mp hps
  obtain rfl : [p] = ps := Except.ok.inj hsingle
  rw [run_addPlans (List.forall_mem_singleton.mpr (supported_of_resolve hp))]

/-- So does a filter that fails at any of its keys. -/
theorem scope_applyAll_of_error {s : Scope} {e : Fault}
    (h : (r.applyAll g m s f).outcome = .error e) : (r.applyAll g m s f).scope = s := by
  refine scope_addResolved_of_error (fun ps hps => ?_) h
  cases hentries : f.entries? with
  | none =>
      rw [hentries] at hps
      cases hps
  | some entries =>
      rw [hentries] at hps
      exact run_addPlans_of_resolveEach hps s

/-- Filters on a model are added to queries as a whole or not at all. -/
structure AllOrNothing (r : Resolver) (g : ModelGraph M) (m : M) : Prop where
  /-- Every relation in a plan that has been resolved is one of the model it was recorded
  for. -/
  supported : ∀ dialect field f p, (r.resolve g m dialect field f).outcome = .ok p →
    Plan.Supported g p.entries
  /-- Such a plan can be added to any scope. -/
  added : ∀ dialect field f p, (r.resolve g m dialect field f).outcome = .ok p →
    ∀ s : Scope, (s.run (p.apply g)).1 = .ok ()
  /-- So can the plans of several keys. -/
  addedEach : ∀ dialect entries ps, (r.resolveEach g m dialect entries).outcome = .ok ps →
    ∀ s : Scope, (s.run (addPlans g ps)).1 = .ok ()
  /-- A key that fails leaves the scope as it was. -/
  apply : ∀ s field f e, (r.apply g m s field f).outcome = .error e →
    (r.apply g m s field f).scope = s
  /-- A filter that fails at any of its keys leaves the scope as it was. -/
  applyAll : ∀ s f e, (r.applyAll g m s f).outcome = .error e → (r.applyAll g m s f).scope = s

end Resolver

namespace Engine

/-- Filters on a model are added to queries as a whole or not at all. -/
structure AllOrNothing (e : Engine) (name : String) : Prop where
  /-- A key that fails leaves the scope as it was. -/
  apply : ∀ s field f p, (e.apply name s field f).outcome = .error p →
    (e.apply name s field f).scope = s
  /-- A filter that fails at any of its keys leaves the scope as it was. -/
  applyAll : ∀ s f p, (e.applyAll name s f).outcome = .error p → (e.applyAll name s f).scope = s

/-- An engine fails on a known model only if its resolver does. -/
theorem outcome_ofResolver_eq_error {before : List Event} {a : Resolver.Applied} {p : Problem}
    (h : (Applied.ofResolver before a).outcome = .error p) : ∃ x, a.outcome = .error x := by
  cases hout : a.outcome with
  | error x => exact ⟨x, rfl⟩
  | ok u =>
      simp only [Applied.ofResolver, hout] at h
      cases h

/-- Filters are added as a whole or not at all, for whatever model of whatever host. -/
theorem allOrNothing :
    (∀ (M : Type) (r : Resolver) (g : ModelGraph M) (m : M), r.AllOrNothing g m) ∧
      ∀ (e : Engine) (name : String), e.AllOrNothing name := by
  refine ⟨fun M r g m => ?_, fun e name => ?_⟩
  · exact
      { supported := fun _ _ _ _ h => Resolver.supported_of_resolve h
        added := fun _ _ _ _ h => Resolver.run_apply_of_resolve h
        addedEach := fun _ _ _ h => Resolver.run_addPlans_of_resolveEach h
        apply := fun _ _ _ _ h => Resolver.scope_apply_of_error h
        applyAll := fun _ _ _ h => Resolver.scope_applyAll_of_error h }
  · constructor
    · intro s field f p h
      unfold apply at h ⊢
      cases hmodel : e.model name with
      | error q => rfl
      | ok m =>
          simp only [hmodel] at h
          obtain ⟨x, hx⟩ := outcome_ofResolver_eq_error h
          exact Resolver.scope_apply_of_error hx
    · intro s f p h
      unfold applyAll at h ⊢
      cases hmodel : e.model name with
      | error q => rfl
      | ok m =>
          simp only [hmodel] at h
          obtain ⟨x, hx⟩ := outcome_ofResolver_eq_error h
          exact Resolver.scope_applyAll_of_error hx

/-- A filter whose second key is refused is not added at all, though the first one could
be. -/
theorem scope_library_of_error :
    let f : Filter := .group
      [("books", .group [("title", .group [("$eq", .leaf (.text "Orlando"))])]),
        ("name", .group [("$like", .leaf (.text "W%"))])]
    let authors : Scope := .root .postgres "authors"
    (library.applyAll "Author" authors f).outcome =
        .error (.filter (.operatorNotSupported "name" "$like" ["$eq"])) ∧
      (library.applyAll "Author" authors f).scope = authors := by
  intro f authors
  have hfault : (library.applyAll "Author" authors f).outcome =
      .error (.filter (.operatorNotSupported "name" "$like" ["$eq"])) := rfl
  exact ⟨hfault, (allOrNothing.2 library "Author").applyAll authors f _ hfault⟩

end Engine

end Sift
