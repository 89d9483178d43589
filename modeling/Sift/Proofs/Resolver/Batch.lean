import Sift.Proofs.Plan.Clauses
import Sift.Proofs.Reported
import Sift.Proofs.Resolver.Vetted

/-!
# Sift.Proofs.Resolver.Batch

All keys of a filter at once.  The keys are resolved in turn, and then the clauses of
their plans are added to the scope in turn.

Main statements:

* `outcome_resolveEach_eq_ok_iff` — all keys resolve exactly when each is accepted;
* `run_addPlans` — adding the plans of accepted keys cannot fail;
* `applyAll_of_ok` — a filter that is applied leaves its clauses behind those that were
  there.
-/

namespace Sift

namespace Resolver

variable {M : Type} {r : Resolver} {g : ModelGraph M} {dialect : Dialect} {m : M}

/-! ## Resolving all keys -/

/-- The plans of keys with what stands under them. -/
def plansOf (r : Resolver) (g : ModelGraph M) (dialect : Dialect) (m : M)
    (entries : List (String × Filter)) : List (Plan M) :=
  entries.map fun e => .ofPlacements (r.gather g dialect m e.1 e.2).placements

/-- All keys resolve exactly when each is accepted. -/
theorem outcome_resolveEach_eq_ok_iff {entries : List (String × Filter)} {ps : List (Plan M)} :
    (r.resolveEach g m dialect entries).outcome = .ok ps ↔
      (∀ e ∈ entries, r.Accepts g dialect m e.1 e.2) ∧ ps = r.plansOf g dialect m entries := by
  induction entries generalizing ps with
  | nil => simp [resolveEach, plansOf, eq_comm]
  | cons e rest ih =>
      rw [resolveEach, Reported.outcome_bind_eq_ok_iff]
      simp only [Reported.outcome_bind_eq_ok_iff, Reported.outcome_pure,
        outcome_resolve_eq_ok_iff, ih]
      constructor
      · rintro ⟨p, ⟨haccepts, rfl⟩, qs, ⟨hrest, rfl⟩, hps⟩
        refine ⟨?_, ?_⟩
        · intro x hx
          rcases List.mem_cons.mp hx with rfl | hx
          · exact haccepts
          · exact hrest x hx
        · exact (Except.ok.inj hps).symm
      · rintro ⟨hall, rfl⟩
        exact ⟨_, ⟨hall e List.mem_cons_self, rfl⟩, _,
          ⟨fun x hx => hall x (List.mem_cons_of_mem e hx), rfl⟩, rfl⟩

/-! ## Adding plans -/

mutual

/-- The relations of a plan that has been checked exist. -/
theorem supported_of_vettedEntry : {m : M} → {e : Plan.Entry M} →
    r.VettedEntry g dialect m e → e.Supported g
  | m, .condition c, _ => by simp [Plan.Entry.Supported]
  | m, .related name owner inner, h => by
      rw [VettedEntry] at h
      obtain ⟨rfl, -, related, join, hrel, hinner⟩ := h
      rw [Plan.Entry.Supported, hrel]
      exact ⟨rfl, supported_of_vetted hinner⟩

/-- In a vetted plan every relation is one of the model it was recorded for. -/
theorem supported_of_vetted : {m : M} → {es : List (Plan.Entry M)} →
    r.Vetted g dialect m es → Plan.Supported g es
  | m, [], _ => by simp [Plan.Supported]
  | m, e :: es, h => by
      rw [Vetted] at h
      rw [Plan.Supported]
      exact ⟨supported_of_vettedEntry h.1, supported_of_vetted h.2⟩

end

/-- Adding plans whose relations exist adds their clauses, in turn. -/
theorem run_addPlans {ps : List (Plan M)} (h : ∀ p ∈ ps, Plan.Supported g p.entries)
    (s : Scope) :
    s.run (addPlans g ps) =
      (.ok (), s.extend (ps.flatMap fun p => Plan.clausesOf g s.frame p.entries)) := by
  induction ps generalizing s with
  | nil =>
      show s.run (pure ()) = _
      rw [Scope.run_pure, List.flatMap_nil, Scope.extend_nil]
  | cons p ps ih =>
      have hp : s.run (p.apply g) = (.ok (), s.extend (Plan.clausesOf g s.frame p.entries)) :=
        Plan.run_applyAll g p.entries (h p List.mem_cons_self) s
      show s.run (p.apply g >>= fun _ => addPlans g ps) = _
      rw [Scope.run_bind, hp]
      simp only
      rw [ih (fun q hq => h q (List.mem_cons_of_mem p hq)), Scope.frame_extend,
        Scope.extend_extend, List.flatMap_cons]

/-- The plans of accepted keys are vetted. -/
theorem vetted_of_mem_plansOf {entries : List (String × Filter)} {p : Plan M}
    (hentries : ∀ e ∈ entries, r.Accepts g dialect m e.1 e.2)
    (hp : p ∈ r.plansOf g dialect m entries) : r.Vetted g dialect m p.entries := by
  obtain ⟨e, he, rfl⟩ := List.mem_map.mp hp
  exact vetted_of_resolve (outcome_resolve_eq_ok_iff.mpr ⟨hentries e he, rfl⟩)

/-- The plans of accepted keys can be added to any scope. -/
theorem run_addPlans_of_accepts {entries : List (String × Filter)}
    (h : ∀ e ∈ entries, r.Accepts g dialect m e.1 e.2) (s : Scope) :
    s.run (addPlans g (r.plansOf g dialect m entries)) =
      (.ok (), s.extend ((r.plansOf g dialect m entries).flatMap fun p =>
        Plan.clausesOf g s.frame p.entries)) :=
  run_addPlans (fun _ hp => supported_of_vetted (vetted_of_mem_plansOf h hp)) s

/-- Keys that are all accepted leave the clauses of their plans behind those that were
there. -/
theorem applyAll_of_accepts {s : Scope} {entries : List (String × Filter)}
    (h : ∀ e ∈ entries, r.Accepts g s.frame.dialect m e.1 e.2) :
    r.applyAll g m s (.group entries) =
      ⟨(r.resolveEach g m s.frame.dialect entries).events, .ok (),
        s.extend ((r.plansOf g s.frame.dialect m entries).flatMap fun p =>
          Plan.clausesOf g s.frame p.entries)⟩ := by
  have heach := outcome_resolveEach_eq_ok_iff.mpr ⟨h, rfl⟩
  simp only [applyAll, addResolved, Filter.entries?, heach, run_addPlans_of_accepts h]

/-- A filter that is applied is a group of accepted entries, and leaves the clauses of
their plans behind those that were there. -/
theorem applyAll_of_ok {s : Scope} {f : Filter}
    (h : (r.applyAll g m s f).outcome = .ok ()) :
    ∃ entries, f = .group entries ∧
      (∀ e ∈ entries, r.Accepts g s.frame.dialect m e.1 e.2) ∧
      (r.applyAll g m s f).scope =
        s.extend ((r.plansOf g s.frame.dialect m entries).flatMap fun p =>
          Plan.clausesOf g s.frame p.entries) := by
  cases f with
  | leaf v => simp [applyAll, addResolved, Filter.entries?, throw, throwThe, MonadExceptOf.throw] at h
  | group entries =>
      cases hout : (r.resolveEach g m s.frame.dialect entries).outcome with
      | error e => simp [applyAll, addResolved, Filter.entries?, hout] at h
      | ok ps =>
          have haccepts := (outcome_resolveEach_eq_ok_iff.mp hout).1
          exact ⟨entries, rfl, haccepts, by rw [applyAll_of_accepts haccepts]⟩

end Resolver

end Sift
