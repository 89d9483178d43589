import Sift.Proofs.Plan.Clauses
import Sift.Proofs.Plan.Insertion
import Sift.Proofs.Scope.Shape

/-!
# Sift.Proofs.Plan.Shape

Plans without the values in them.  Where a condition is put depends on its place alone, so
the shape of a plan depends on the shapes of its conditions alone.

Main statements:

* `shapes_insertEach` — conditions are put in their places whatever their values are;
* `shapes_clausesOf` — the clauses of a plan have the shapes that those of its shape have.
-/

namespace Sift

/-- A condition in its place, with the shape of the condition. -/
def Placement.shape {M : Type} (p : Placement M) : Placement M :=
  { p with condition := p.condition.shape }

/-- It is all one whether shapes are taken before or after going below a relation. -/
theorem Placement.map_shape_under {M : Type} (name : String) (owner : M)
    (ps : List (Placement M)) :
    (ps.map (under name owner)).map shape = (ps.map shape).map (under name owner) := by
  rw [List.map_map, List.map_map]
  rfl

namespace Plan

variable {M : Type}

mutual

/-- An entry with the shapes of its conditions. -/
def Entry.shape : Entry M → Entry M
  | .condition c => .condition c.shape
  | .related name owner inner => .related name owner (shapes inner)

def shapes : List (Entry M) → List (Entry M)
  | [] => []
  | e :: es => e.shape :: shapes es

end

@[simp] theorem shapes_nil : shapes ([] : List (Entry M)) = [] := rfl

@[simp] theorem shapes_cons (e : Entry M) (es : List (Entry M)) :
    shapes (e :: es) = e.shape :: shapes es := rfl

@[simp] theorem shapes_append (es fs : List (Entry M)) :
    shapes (es ++ fs) = shapes es ++ shapes fs := by
  induction es with
  | nil => rfl
  | cons e es ih => simp [ih]

/-! ## Putting conditions in their places -/

/-- A change that goes by shapes goes by shapes in the scope of a relation. -/
theorem shapes_updateFirst {name : String} {owner : M}
    {change change' : List (Entry M) → List (Entry M)}
    (h : ∀ inner, shapes (change inner) = change' (shapes inner)) (es : List (Entry M)) :
    shapes (updateFirst name owner change es) = updateFirst name owner change' (shapes es) := by
  induction es with
  | nil => simp [updateFirst, Entry.shape, h]
  | cons e es ih =>
      cases e with
      | condition c => simp [updateFirst, Entry.shape, ih]
      | related n o inner =>
          rw [updateFirst, shapes_cons, Entry.shape, updateFirst]
          split
          · rw [shapes_cons, Entry.shape, h]
          · rw [shapes_cons, Entry.shape, ih]

/-- A condition is put in the same place whatever its shape. -/
theorem shapes_insertInto (c : Condition) : (names : List String) → (owners : List M) →
    (es : List (Entry M)) →
    shapes (insertInto names owners c es) = insertInto names owners c.shape (shapes es)
  | name :: names, owner :: owners, es => by
      rw [insertInto, insertInto]
      exact shapes_updateFirst (shapes_insertInto c names owners) es
  | [], _, es => by simp [insertInto, Entry.shape]
  | _ :: _, [], es => by simp [insertInto, Entry.shape]

/-- Conditions are put in their places whatever their values are. -/
theorem shapes_insertEach (es : List (Entry M)) (ps : List (Placement M)) :
    shapes (insertEach es ps) = insertEach (shapes es) (ps.map Placement.shape) := by
  induction ps generalizing es with
  | nil => rfl
  | cons p ps ih =>
      rw [insertEach_cons, List.map_cons, insertEach_cons, ih, shapes_insertInto]
      rfl

/-! ## Clauses -/

mutual

/-- The shape of a clause follows from the shape of its entry. -/
theorem shapes_clauses (g : ModelGraph M) (frame : Frame) : (e : Entry M) →
    Clause.shapes (e.clauses g frame) = e.shape.clauses g frame
  | .condition c => rfl
  | .related name owner inner => by
      rw [Entry.clauses, Entry.shape, Entry.clauses]
      cases g.relation owner name with
      | none => rfl
      | some target => simp [Clause.shape, shapes_clausesOf g _ inner]

/-- The clauses of a plan have the shapes that those of its shape have. -/
theorem shapes_clausesOf (g : ModelGraph M) (frame : Frame) : (es : List (Entry M)) →
    Clause.shapes (clausesOf g frame es) = clausesOf g frame (shapes es)
  | [] => rfl
  | e :: es => by
      rw [clausesOf_cons, Clause.shapes_append, shapes_clauses g frame e,
        shapes_clausesOf g frame es, shapes_cons, clausesOf_cons]

end

/-- Conditions of the same shapes in the same places make clauses of the same shapes. -/
theorem shapes_clausesOf_ofPlacements {ps qs : List (Placement M)}
    (h : ps.map Placement.shape = qs.map Placement.shape) (g : ModelGraph M) (frame : Frame) :
    Clause.shapes (clausesOf g frame (ofPlacements ps).entries) =
      Clause.shapes (clausesOf g frame (ofPlacements qs).entries) := by
  simp only [shapes_clausesOf, entries_ofPlacements, shapes_insertEach, h]

end Plan

end Sift
