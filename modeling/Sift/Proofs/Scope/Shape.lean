import Sift.Proofs.Sql.Alike
import Sift.Scope.Render

/-!
# Sift.Proofs.Scope.Shape

Queries without the values in them.  The shape of a condition keeps everything about it but
its values, of which there remain only how many there are, and whether a comparison is with
null.

Main statement: `alike_of_shapes_eq` — scopes whose clauses have the same shapes are written
the same.
-/

namespace Sift

open Sql (Fragment)

/-! ## Conditions -/

namespace Condition

/-- A condition with some other values in place of its own.  Null is compared with null. -/
def shape : Condition → Condition
  | .compare column op value => .compare column op (if value.isNull then .null else .bool true)
  | .among column values negated => .among column (values.map fun _ => .null) negated
  | .null column negated => .null column negated
  | .between column _ _ negated => .between column .null .null negated
  | .like column _ negated => .like column "" negated
  | .raw column template params => .raw column template (params.map fun _ => .null)

/-- A comparison with a value other than null binds the value. -/
theorem render_compare_of_isNull_eq_false {value : Value} (h : value.isNull = false)
    (qualifier column : String) (op : Comparison) (f : Fragment) :
    (compare column op value).render qualifier f =
      ((f.pushColumn qualifier column).push (" " ++ op.sql ++ " ")).pushParam value := by
  cases value with
  | null => simp [Value.isNull] at h
  | bool | int | float | text | list | document => cases op <;> rfl

/-- A comparison is written like any other that is with null if it is. -/
theorem alike_render_compare {f g : Fragment} (h : f.Alike g) (qualifier column : String)
    (op : Comparison) {v w : Value} (hnull : v.isNull = w.isNull) :
    ((compare column op v).render qualifier f).Alike
      ((compare column op w).render qualifier g) := by
  have hcolumn := h.pushColumn qualifier column
  cases hv : v.isNull with
  | false =>
      rw [render_compare_of_isNull_eq_false hv,
        render_compare_of_isNull_eq_false (hnull.symm.trans hv)]
      exact (hcolumn.push _).pushParam v w
  | true =>
      obtain rfl : v = .null := by cases v <;> simp_all [Value.isNull]
      obtain rfl : w = .null := by cases w <;> simp_all [Value.isNull]
      cases op with
      | eq | ne => exact hcolumn.push _
      | lt | le | gt | ge => exact (hcolumn.push _).pushParam .null .null

/-- A condition is written like its shape. -/
theorem alike_render_shape {f g : Fragment} (h : f.Alike g) (qualifier : String)
    (c : Condition) : (c.render qualifier f).Alike (c.shape.render qualifier g) := by
  cases c with
  | compare column op value =>
      refine alike_render_compare h qualifier column op ?_
      cases value <;> rfl
  | among column values negated =>
      exact (((h.pushColumn qualifier column).push _).pushParams (by simp)).push ")"
  | null column negated => exact (h.pushColumn qualifier column).push _
  | between column low high negated =>
      have hlow := ((h.pushColumn qualifier column).push
        (" " ++ negation negated ++ "BETWEEN ")).pushParam low .null
      exact (hlow.push " AND ").pushParam high .null
  | like column pattern negated =>
      exact ((h.pushColumn qualifier column).push _).pushParam (.text pattern) (.text "")
  | raw column template params => exact h.pushTemplate qualifier column template (by simp)

end Condition

/-! ## Clauses -/

namespace Clause

mutual

/-- A clause with the shapes of its conditions. -/
def shape : Clause → Clause
  | .condition c => .condition c.shape
  | .related join frame clauses => .related join frame (shapes clauses)

def shapes : List Clause → List Clause
  | [] => []
  | c :: cs => c.shape :: shapes cs

end

@[simp] theorem shapes_nil : shapes [] = [] := rfl

@[simp] theorem shapes_cons (c : Clause) (cs : List Clause) :
    shapes (c :: cs) = c.shape :: shapes cs := rfl

@[simp] theorem shapes_append (cs ds : List Clause) :
    shapes (cs ++ ds) = shapes cs ++ shapes ds := by
  induction cs with
  | nil => rfl
  | cons c cs ih => simp [ih]

end Clause

namespace Join

/-- Whatever alike stands in front, the beginning of a test for a related row goes on alike. -/
theorem alike_render {f g : Fragment} (h : f.Alike g) (outer inner : Frame) (join : Join) :
    (join.render outer inner f).Alike (join.render outer inner g) := by
  have hfrom := (h.push "EXISTS (SELECT 1 FROM ").pushIdentifier join.relatedTable
  have has := (hfrom.push " AS ").pushIdentifier inner.qualifier
  unfold render
  cases join.link with
  | none =>
      have hrelated := (has.push " WHERE ").pushColumn inner.qualifier join.relatedColumn
      exact (hrelated.push " = ").pushColumn outer.qualifier join.parentColumn
  | some link =>
      have hlink := (has.push " INNER JOIN ").pushIdentifier link.table
      have has' := (hlink.push " AS ").pushIdentifier inner.linkAlias
      have htarget := (has'.push " ON ").pushColumn inner.linkAlias link.targetColumn
      have hrelated := (htarget.push " = ").pushColumn inner.qualifier join.relatedColumn
      have hsource := (hrelated.push " WHERE ").pushColumn inner.linkAlias link.sourceColumn
      exact (hsource.push " = ").pushColumn outer.qualifier join.parentColumn

end Join

namespace Clause

mutual

/-- A clause is written like its shape. -/
theorem alike_render_shape (frame : Frame) : (c : Clause) → {f g : Fragment} → f.Alike g →
    (c.render frame f).Alike (c.shape.render frame g)
  | .condition c, _, _, h => c.alike_render_shape h frame.qualifier
  | .related join inner clauses, _, _, h =>
      (alike_renderMore_shapes inner clauses (join.alike_render h frame inner)).push ")"

/-- Clauses behind others are written like their shapes. -/
theorem alike_renderMore_shapes (frame : Frame) : (cs : List Clause) → {f g : Fragment} →
    f.Alike g → (renderMore frame cs f).Alike (renderMore frame (shapes cs) g)
  | [], _, _, h => h
  | c :: cs, _, _, h =>
      alike_renderMore_shapes frame cs (alike_render_shape frame c (h.push " AND "))

end

/-- So are clauses on their own. -/
theorem alike_renderAll_shapes (frame : Frame) (cs : List Clause) {f g : Fragment}
    (h : f.Alike g) : (renderAll frame cs f).Alike (renderAll frame (shapes cs) g) := by
  cases cs with
  | nil => exact h
  | cons c cs => exact alike_renderMore_shapes frame cs (alike_render_shape frame c h)

/-- Clauses of the same shapes are written the same. -/
theorem alike_renderAll {frame : Frame} {cs ds : List Clause} (hshapes : shapes cs = shapes ds)
    (f : Fragment) : (renderAll frame cs f).Alike (renderAll frame ds f) := by
  have hcs := alike_renderAll_shapes frame cs (Fragment.Alike.refl f)
  have hds := alike_renderAll_shapes frame ds (Fragment.Alike.refl f)
  rw [← hshapes] at hds
  exact hcs.trans hds.symm

end Clause

/-! ## Scopes -/

/-- Scopes over the same rows whose clauses have the same shapes are written the same. -/
theorem Scope.alike_of_shapes_eq {frame : Frame} {cs ds : List Clause}
    (h : Clause.shapes cs = Clause.shapes ds) :
    (whereSql ⟨frame, cs⟩).Alike (whereSql ⟨frame, ds⟩) ∧
      (selectSql ⟨frame, cs⟩).Alike (selectSql ⟨frame, ds⟩) := by
  match cs, ds, h with
  | [], [], _ => exact ⟨.refl _, .refl _⟩
  | c :: cs, d :: ds, h => exact ⟨Clause.alike_renderAll h _, Clause.alike_renderAll h _⟩

end Sift
