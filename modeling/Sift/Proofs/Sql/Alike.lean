import Sift.Sql.Template

/-!
# Sift.Proofs.Sql.Alike

What the text of a statement depends on: not on the values that are bound, only on how
many there are.  Statements that are alike stay alike whatever is written to both.

Main statement: `alike_pushTemplate` — this is so of templates too, whatever stands in
them.
-/

namespace Sift.Sql.Fragment

/-- Statements in one dialect have the same text and bind equally many values. -/
structure Alike (f g : Fragment) : Prop where
  dialect : f.dialect = g.dialect
  text : f.text = g.text
  params : f.params.length = g.params.length

namespace Alike

variable {f g : Fragment}

theorem refl (f : Fragment) : f.Alike f := ⟨rfl, rfl, rfl⟩

theorem symm (h : f.Alike g) : g.Alike f := ⟨h.dialect.symm, h.text.symm, h.params.symm⟩

theorem trans {k : Fragment} (h : f.Alike g) (h' : g.Alike k) : f.Alike k :=
  ⟨h.dialect.trans h'.dialect, h.text.trans h'.text, h.params.trans h'.params⟩

/-! ## Text and names -/

theorem push (h : f.Alike g) (sql : String) : (f.push sql).Alike (g.push sql) where
  dialect := h.dialect
  text := by rw [text_push, text_push, h.text]
  params := h.params

theorem pushIdentifier (h : f.Alike g) (name : String) :
    (f.pushIdentifier name).Alike (g.pushIdentifier name) := by
  unfold Fragment.pushIdentifier
  rw [h.dialect]
  exact h.push _

theorem pushColumn (h : f.Alike g) (qualifier column : String) :
    (f.pushColumn qualifier column).Alike (g.pushColumn qualifier column) :=
  ((h.pushIdentifier qualifier).push ".").pushIdentifier column

/-! ## Values -/

/-- Binding a value writes its number only. -/
theorem pushParam (h : f.Alike g) (v w : Value) : (f.pushParam v).Alike (g.pushParam w) where
  dialect := h.dialect
  text := by rw [text_pushParam, text_pushParam, h.dialect, h.text, h.params]
  params := by
    rw [params_pushParam, params_pushParam, List.length_append, List.length_append, h.params]
    rfl

theorem pushParams (h : f.Alike g) {vs ws : List Value} (hlength : vs.length = ws.length) :
    (f.pushParams vs).Alike (g.pushParams ws) := by
  fun_induction Fragment.pushParams f vs generalizing g ws with
  | case1 f =>
      obtain rfl := List.eq_nil_of_length_eq_zero hlength.symm
      exact h
  | case2 f v =>
      obtain ⟨w, rfl⟩ := List.length_eq_one_iff.mp hlength.symm
      exact h.pushParam v w
  | case3 f v vs hne ih =>
      cases ws with
      | nil => simp at hlength
      | cons w ws =>
          have htail : vs.length = ws.length := by simpa using hlength
          cases ws with
          | nil => exact absurd (List.eq_nil_of_length_eq_zero htail) hne
          | cons x ws => exact ih ((h.pushParam v w).push ", ") htail

/-! ## Templates -/

theorem pushChunks (h : f.Alike g) (chunks : List (List Char)) {vs ws : List Value}
    (hlength : vs.length = ws.length) :
    (f.pushChunks chunks vs).1.Alike (g.pushChunks chunks ws).1 ∧
      (f.pushChunks chunks vs).2.length = (g.pushChunks chunks ws).2.length := by
  fun_induction Fragment.pushChunks f chunks vs generalizing g ws with
  | case1 f vs => exact ⟨h, hlength⟩
  | case2 f vs chunk => exact ⟨h.push _, hlength⟩
  | case3 f chunk chunks hne ih =>
      obtain rfl := List.eq_nil_of_length_eq_zero hlength.symm
      obtain ⟨next, chunks, rfl⟩ := List.exists_cons_of_ne_nil hne
      exact ih ((h.push _).push "?") rfl
  | case4 f chunk chunks v vs hne ih =>
      obtain ⟨next, chunks, rfl⟩ := List.exists_cons_of_ne_nil hne
      cases ws with
      | nil => simp at hlength
      | cons w ws =>
          have htail : vs.length = ws.length := by simpa using hlength
          exact ih ((h.push _).pushParam v w) htail

theorem pushPieces (h : f.Alike g) (qualifier column : String) (pieces : List (List Char))
    {vs ws : List Value} (hlength : vs.length = ws.length) :
    (f.pushPieces qualifier column pieces vs).Alike
      (g.pushPieces qualifier column pieces ws) := by
  fun_induction Fragment.pushPieces f qualifier column pieces vs generalizing g ws with
  | case1 f vs => exact h
  | case2 f piece vs => exact (h.pushChunks _ hlength).1
  | case3 f piece pieces vs hne k left hchunks ih =>
      obtain ⟨next, pieces, rfl⟩ := List.exists_cons_of_ne_nil hne
      have hboth := h.pushChunks (Text.split '?' [] piece) hlength
      rw [hchunks] at hboth
      exact ih (hboth.1.pushColumn qualifier column) hboth.2

theorem pushTemplate (h : f.Alike g) (qualifier column template : String) {vs ws : List Value}
    (hlength : vs.length = ws.length) :
    (f.pushTemplate qualifier column template vs).Alike
      (g.pushTemplate qualifier column template ws) :=
  h.pushPieces qualifier column _ hlength

end Alike

end Sift.Sql.Fragment
