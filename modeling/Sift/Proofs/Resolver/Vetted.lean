import Sift.Proofs.Plan.Insertion
import Sift.Proofs.Resolver.Acceptance

/-!
# Sift.Proofs.Resolver.Vetted

What has been checked of everything in a plan.  Each condition was made by a registered
operator that the model of its scope permits on its field; each scope stands for a
relation of the model that it belongs to, one that may be filtered by some key other than
an operator.

Main statements:

* `vetted_insertInto` — a vetted condition put in its place leaves a plan vetted;
* `vetted_of_resolve` — so the plan of a filter is vetted, however deep it is.
-/

namespace Sift

namespace Resolver

variable {M : Type}

/-- A registered operator, permitted on a field of the model, made the condition. -/
def VettedCondition (r : Resolver) (g : ModelGraph M) (dialect : Dialect) (m : M)
    (c : Condition) : Prop :=
  ∃ field symbol e arguments, r.registry.lookup symbol = some e ∧ g.Permits m field symbol ∧
    e.build field arguments dialect = .ok c

/-- A field of the model permits a key that is no operator. -/
def VettedRelation (r : Resolver) (g : ModelGraph M) (m : M) (name : String) : Prop :=
  ∃ key, key ∉ r.registry.symbols ∧ g.Permits m name key

mutual

/-- Everything in an entry at a model has been checked. -/
def VettedEntry (r : Resolver) (g : ModelGraph M) (dialect : Dialect) (m : M) :
    Plan.Entry M → Prop
  | .condition c => r.VettedCondition g dialect m c
  | .related name owner inner =>
    owner = m ∧ r.VettedRelation g m name ∧
      ∃ related join, g.relation m name = some (related, join) ∧ Vetted r g dialect related inner

/-- Everything in entries at a model has been checked. -/
def Vetted (r : Resolver) (g : ModelGraph M) (dialect : Dialect) (m : M) :
    List (Plan.Entry M) → Prop
  | [] => True
  | e :: es => VettedEntry r g dialect m e ∧ Vetted r g dialect m es

end

/-- Everything on the way to a condition has been checked, and the condition. -/
def VettedAt (r : Resolver) (g : ModelGraph M) (dialect : Dialect) (c : Condition) :
    M → List (String × M) → Prop
  | m, [] => r.VettedCondition g dialect m c
  | m, (name, owner) :: steps =>
    owner = m ∧ r.VettedRelation g m name ∧
      ∃ related join, g.relation m name = some (related, join) ∧
        VettedAt r g dialect c related steps

section Insertion

variable {r : Resolver} {g : ModelGraph M} {dialect : Dialect} {m : M}

/-- Entries are vetted one by one. -/
theorem vetted_iff {es : List (Plan.Entry M)} :
    r.Vetted g dialect m es ↔ ∀ e ∈ es, r.VettedEntry g dialect m e := by
  induction es with
  | nil => simp [Vetted]
  | cons e es ih => simp [Vetted, ih]

theorem vetted_append {es fs : List (Plan.Entry M)} :
    r.Vetted g dialect m (es ++ fs) ↔ r.Vetted g dialect m es ∧ r.Vetted g dialect m fs := by
  simp only [vetted_iff, List.forall_mem_append]

/-- A change that keeps the scope of a relation vetted keeps the plan vetted. -/
theorem vetted_updateFirst {name : String} {related : M} {join : Join}
    {change : List (Plan.Entry M) → List (Plan.Entry M)} {es : List (Plan.Entry M)}
    (hname : r.VettedRelation g m name) (hrel : g.relation m name = some (related, join))
    (hchange : ∀ inner, r.Vetted g dialect related inner → r.Vetted g dialect related (change inner))
    (hes : r.Vetted g dialect m es) :
    r.Vetted g dialect m (Plan.updateFirst name m change es) := by
  induction es with
  | nil =>
      have hnil := hchange [] (by simp [Vetted])
      simp only [Plan.updateFirst, Vetted, VettedEntry, true_and, and_true]
      exact ⟨hname, related, join, hrel, hnil⟩
  | cons e es ih =>
      rw [Vetted] at hes
      cases e with
      | condition c =>
          rw [Plan.updateFirst, Vetted]
          exact ⟨hes.1, ih hes.2⟩
      | related n o inner =>
          rw [Plan.updateFirst]
          split
          · next heq =>
              subst heq
              obtain ⟨⟨howner, -, other, join', hother, hinner⟩, hrest⟩ := hes
              have hsame : other = related := by simp_all
              subst hsame
              rw [Vetted, VettedEntry]
              exact ⟨⟨howner, hname, other, join, hrel, hchange inner hinner⟩, hrest⟩
          · rw [Vetted]
            exact ⟨hes.1, ih hes.2⟩

/-- A vetted condition put in its place leaves a plan vetted. -/
theorem vetted_insertInto {c : Condition} {steps : List (String × M)}
    {es : List (Plan.Entry M)} (hc : r.VettedAt g dialect c m steps)
    (hes : r.Vetted g dialect m es) :
    r.Vetted g dialect m
      (Plan.insertInto (steps.map Prod.fst) (steps.map Prod.snd) c es) := by
  induction steps generalizing m es with
  | nil =>
      rw [VettedAt] at hc
      simp only [List.map_nil, Plan.insertInto, vetted_append]
      exact ⟨hes, by simpa [Vetted, VettedEntry] using hc⟩
  | cons step steps ih =>
      obtain ⟨name, owner⟩ := step
      rw [VettedAt] at hc
      obtain ⟨rfl, hname, related, join, hrel, hsteps⟩ := hc
      exact vetted_updateFirst hname hrel (fun inner hinner => ih hsteps hinner) hes

/-- So do several, one after the other. -/
theorem vetted_insertEach {ps : List (Placement M)} {es : List (Plan.Entry M)}
    (hps : ∀ p ∈ ps, r.VettedAt g dialect p.condition m p.steps)
    (hes : r.Vetted g dialect m es) : r.Vetted g dialect m (Plan.insertEach es ps) := by
  induction ps generalizing es with
  | nil => exact hes
  | cons p ps ih =>
      rw [Plan.insertEach_cons]
      refine ih (fun q hq => hps q (List.mem_cons_of_mem p hq)) ?_
      exact vetted_insertInto (hps p List.mem_cons_self) hes

end Insertion

/-! ## What is gathered has been checked -/

section Gathering

variable (r : Resolver) (g : ModelGraph M) (dialect : Dialect)

mutual

/-- Everything gathered under a field has been checked, also before a fault. -/
theorem vettedAt_of_mem_gather (m : M) (field : String) : (f : Filter) →
    ∀ p ∈ (r.gather g dialect m field f).placements, r.VettedAt g dialect p.condition m p.steps
  | .leaf v => by simp [gather]
  | .group entries => by
      intro p hp
      rw [gather] at hp
      split at hp
      · simp at hp
      · exact vettedAt_of_mem_gatherEach m field entries p hp

theorem vettedAt_of_mem_gatherEach (m : M) (field : String) :
    (entries : List (String × Filter)) →
    ∀ p ∈ (r.gatherEach g dialect m field entries).placements,
      r.VettedAt g dialect p.condition m p.steps
  | [] => by simp [gatherEach]
  | (key, f) :: rest => by
      intro p hp
      have hrest := vettedAt_of_mem_gatherEach m field rest p
      cases hcheck : g.checkEntry m field key with
      | error e => simp [gatherEach, Gathered.andThen, Gathered.check, hcheck] at hp
      | ok u =>
          have hpermits := ModelGraph.checkEntry_eq_ok_iff.mp hcheck
          rw [gatherEach, Gathered.placements_andThen_of_ok hcheck, Gathered.placements_check,
            List.nil_append] at hp
          rcases Gathered.mem_or_mem_of_mem_andThen hp with hp | hp
          · cases hkey : r.registry.lookup key with
            | some e =>
                simp only [hkey, Gathered.mem_placements_one] at hp
                obtain ⟨arguments, c, -, hbuild, rfl⟩ := place_eq_ok_iff.mp hp
                exact ⟨field, key, e, arguments, hkey, hpermits, hbuild⟩
            | none =>
                simp only [hkey] at hp
                cases hrel : g.relation m field with
                | none => simp [hrel] at hp
                | some target =>
                    simp only [hrel, Gathered.placements_under, List.mem_map] at hp
                    obtain ⟨q, hq, rfl⟩ := hp
                    have hq' := vettedAt_of_mem_gather target.1 key f q hq
                    exact ⟨rfl, ⟨key, lookup_eq_none_iff.mp hkey, hpermits⟩, target.1, target.2,
                      hrel, hq'⟩
          · exact hrest hp

end

end Gathering

/-- The plan of a filter is vetted, on the model and on every model that its scopes lead
to. -/
theorem vetted_of_resolve {r : Resolver} {g : ModelGraph M} {m : M} {dialect : Dialect}
    {field : String} {f : Filter} {p : Plan M}
    (hp : (r.resolve g m dialect field f).outcome = .ok p) :
    r.Vetted g dialect m p.entries := by
  obtain ⟨-, rfl⟩ := outcome_resolve_eq_ok_iff.mp hp
  exact vetted_insertEach (vettedAt_of_mem_gather r g dialect m field f) (by simp [Vetted])

end Resolver

end Sift
