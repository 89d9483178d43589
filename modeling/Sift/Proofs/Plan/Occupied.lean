import Sift.Proofs.Plan.Insertion

/-!
# Sift.Proofs.Plan.Occupied

How many conditions a plan holds.  Each condition that is put in its place is one more, and
a scope is only opened to put a condition into it; so no scope of a plan is ever empty.

Main statements:

* `counts_insertInto` — a condition in its place is one more condition;
* `occupied_ofPlacements` — every scope of a plan holds a condition.
-/

namespace Sift

namespace Plan

variable {M : Type}

mutual

/-- Every scope in an entry holds a condition, on its own level or below. -/
def Entry.Occupied : Entry M → Prop
  | .condition _ => True
  | .related _ _ inner => 0 < counts inner ∧ Occupied inner

/-- Every scope in some entries holds a condition. -/
def Occupied : List (Entry M) → Prop
  | [] => True
  | e :: es => e.Occupied ∧ Occupied es

end

@[simp] theorem counts_nil : counts ([] : List (Entry M)) = 0 := rfl

@[simp] theorem counts_cons (e : Entry M) (es : List (Entry M)) :
    counts (e :: es) = e.count + counts es := rfl

@[simp] theorem counts_append (es fs : List (Entry M)) :
    counts (es ++ fs) = counts es + counts fs := by
  induction es with
  | nil => simp
  | cons e es ih => simp [ih, Nat.add_assoc]

/-- Entries are occupied if both parts of them are. -/
theorem occupied_append {es fs : List (Entry M)} :
    Occupied (es ++ fs) ↔ Occupied es ∧ Occupied fs := by
  induction es with
  | nil => simp [Occupied]
  | cons e es ih => simp [Occupied, ih, and_assoc]

section Insertion

variable {name : String} {owner : M} {change : List (Entry M) → List (Entry M)}

/-- One more condition in the scope of a relation is one more condition. -/
theorem counts_updateFirst (h : ∀ inner, counts (change inner) = counts inner + 1)
    (es : List (Entry M)) :
    counts (updateFirst name owner change es) = counts es + 1 := by
  induction es with
  | nil => simp [updateFirst, Entry.count, h]
  | cons e es ih =>
      cases e with
      | condition c =>
          rw [updateFirst, counts_cons, counts_cons, ih]
          omega
      | related n o inner =>
          rw [updateFirst]
          split
          · rw [counts_cons, counts_cons, Entry.count, Entry.count, h]
            omega
          · rw [counts_cons, counts_cons, ih]
            omega

/-- A condition in its place is one more condition. -/
theorem counts_insertInto (c : Condition) : (names : List String) → (owners : List M) →
    (es : List (Entry M)) → counts (insertInto names owners c es) = counts es + 1
  | _ :: names, _ :: owners, es => counts_updateFirst (counts_insertInto c names owners) es
  | [], _, es => by simp [insertInto, Entry.count]
  | _ :: _, [], es => by simp [insertInto, Entry.count]

/-- A change that leaves something in a scope leaves the scopes occupied. -/
theorem occupied_updateFirst (hcounts : ∀ inner, 0 < counts (change inner))
    (h : ∀ inner, Occupied inner → Occupied (change inner)) {es : List (Entry M)}
    (hes : Occupied es) : Occupied (updateFirst name owner change es) := by
  induction es with
  | nil =>
      simp only [updateFirst, Occupied, Entry.Occupied, and_true]
      exact ⟨hcounts [], h [] trivial⟩
  | cons e es ih =>
      rw [Occupied] at hes
      obtain ⟨he, hes⟩ := hes
      cases e with
      | condition c => exact ⟨he, ih hes⟩
      | related n o inner =>
          rw [updateFirst]
          split
          · exact ⟨⟨hcounts inner, h inner he.2⟩, hes⟩
          · exact ⟨he, ih hes⟩

/-- A condition that is put in its place leaves no scope empty. -/
theorem occupied_insertInto (c : Condition) : (names : List String) → (owners : List M) →
    {es : List (Entry M)} → Occupied es → Occupied (insertInto names owners c es)
  | _ :: names, _ :: owners, _, h => by
      refine occupied_updateFirst (fun inner => ?_) (fun inner => occupied_insertInto c names owners) h
      rw [counts_insertInto]
      exact Nat.succ_pos _
  | [], _, _, h => occupied_append.mpr ⟨h, trivial, trivial⟩
  | _ :: _, [], _, h => occupied_append.mpr ⟨h, trivial, trivial⟩

end Insertion

/-- Nor do several. -/
theorem occupied_insertEach {es : List (Entry M)} (ps : List (Placement M)) (h : Occupied es) :
    Occupied (insertEach es ps) := by
  induction ps generalizing es with
  | nil => exact h
  | cons p ps ih =>
      rw [insertEach_cons]
      exact ih (occupied_insertInto p.condition p.relations p.owners h)

/-- Every scope of a plan that is made of conditions in their places holds a condition. -/
theorem occupied_ofPlacements (ps : List (Placement M)) : Occupied (ofPlacements ps).entries :=
  occupied_insertEach ps trivial

end Plan

end Sift
