import Sift.Proofs.Resolver.Gather

/-!
# Sift.Proofs.Plan.Insertion

Where the conditions of a plan end up.  A relation that has no scope yet gets one at the
end of its level; every further condition on the relation goes into that scope and leaves
what stands before and after it alone.

Main statements:

* `insertEach_under_of_not_mem` — the first conditions on a relation open its scope;
* `insertEach_under_of_mem` — further conditions go into the scope where it stands.
-/

namespace Sift

namespace Plan

variable {M : Type}

/-! ## Scopes by name -/

/-- The names of the relations that have a scope among entries. -/
def scopeNames (es : List (Entry M)) : List String := Keyed.keys (es.filterMap Entry.related?)

@[simp] theorem scopeNames_nil : scopeNames ([] : List (Entry M)) = [] := rfl

@[simp] theorem scopeNames_condition (c : Condition) (es : List (Entry M)) :
    scopeNames (.condition c :: es) = scopeNames es := rfl

@[simp] theorem scopeNames_related (name : String) (owner : M) (inner es : List (Entry M)) :
    scopeNames (.related name owner inner :: es) = name :: scopeNames es := rfl

@[simp] theorem scopeNames_append (es fs : List (Entry M)) :
    scopeNames (es ++ fs) = scopeNames es ++ scopeNames fs := by
  simp [scopeNames, Keyed.keys]

/-- A relation without a scope gets one at the end. -/
theorem updateFirst_of_not_mem {name : String} {es : List (Entry M)} (h : name ∉ scopeNames es)
    (owner : M) (change : List (Entry M) → List (Entry M)) :
    updateFirst name owner change es = es ++ [.related name owner (change [])] := by
  induction es with
  | nil => rfl
  | cons e es ih =>
      cases e with
      | condition c => rw [updateFirst, ih h, List.cons_append]
      | related n o inner =>
          simp only [scopeNames_related, List.mem_cons, not_or] at h
          rw [updateFirst, if_neg (Ne.symm h.1), ih h.2, List.cons_append]

/-- The first scope of a relation changes where it stands. -/
theorem updateFirst_append {name : String} {before : List (Entry M)}
    (h : name ∉ scopeNames before) (owner o : M) (inner after : List (Entry M))
    (change : List (Entry M) → List (Entry M)) :
    updateFirst name owner change (before ++ .related name o inner :: after) =
      before ++ .related name o (change inner) :: after := by
  induction before with
  | nil => simp [updateFirst]
  | cons e es ih =>
      cases e with
      | condition c => rw [List.cons_append, updateFirst, ih h, List.cons_append]
      | related n p more =>
          simp only [scopeNames_related, List.mem_cons, not_or] at h
          rw [List.cons_append, updateFirst, if_neg (Ne.symm h.1), ih h.2, List.cons_append]

/-! ## Conditions in turn -/

/-- Put conditions in their places among entries, in turn. -/
def insertEach (es : List (Entry M)) (ps : List (Placement M)) : List (Entry M) :=
  (insertAll ⟨es⟩ [] [] ps).entries

/-- A plan is made by inserting into an empty one. -/
theorem entries_ofPlacements (ps : List (Placement M)) :
    (ofPlacements ps).entries = insertEach [] ps := rfl

@[simp] theorem insertEach_nil (es : List (Entry M)) : insertEach es [] = es := rfl

theorem insertEach_cons (es : List (Entry M)) (p : Placement M) (ps : List (Placement M)) :
    insertEach es (p :: ps) =
      insertEach (insertInto p.relations p.owners p.condition es) ps := rfl

/-- Conditions may be inserted in two parts. -/
theorem insertEach_append (es : List (Entry M)) (ps qs : List (Placement M)) :
    insertEach es (ps ++ qs) = insertEach (insertEach es ps) qs := by
  simp only [insertEach, insertAll_append]

/-- Further conditions on a relation go into its scope. -/
theorem insertEach_under_of_mem {name : String} {before : List (Entry M)}
    (h : name ∉ scopeNames before) (owner o : M) (inner after : List (Entry M))
    (ps : List (Placement M)) :
    insertEach (before ++ .related name o inner :: after) (ps.map (Placement.under name owner)) =
      before ++ .related name o (insertEach inner ps) :: after := by
  induction ps generalizing inner with
  | nil => rfl
  | cons p ps ih =>
      rw [List.map_cons, insertEach_cons, insertEach_cons, Placement.relations_under,
        Placement.owners_under, Placement.condition_under, insertInto, updateFirst_append h, ih]

/-- The first conditions on a relation open its scope. -/
theorem insertEach_under_of_not_mem {name : String} {es : List (Entry M)}
    (h : name ∉ scopeNames es) (owner : M) {ps : List (Placement M)} (hps : ps ≠ []) :
    insertEach es (ps.map (Placement.under name owner)) =
      es ++ [.related name owner (insertEach [] ps)] := by
  cases ps with
  | nil => exact absurd rfl hps
  | cons p ps =>
      rw [List.map_cons, insertEach_cons, insertEach_cons, Placement.relations_under,
        Placement.owners_under, Placement.condition_under, insertInto, updateFirst_of_not_mem h,
        insertEach_under_of_mem h]

end Plan

end Sift
