import Sift.Proofs.Operator.Arguments
import Sift.Proofs.Operator.Build
import Sift.Proofs.Scope.Shape

/-!
# Sift.Proofs.Operator.Shape

What the shape of a condition depends on: how many arguments there are, which of them are
null, and the flag that an operator is given that tests for null.

Main statement: `shape_build` — a built-in operator makes conditions of the same shape of
arguments that agree in all this.
-/

namespace Sift

namespace Operator

/-- Arguments of an operator are equally many with null at the same places, and if the
operator tests for null, then they are the same flag. -/
structure Agree (op : Operator) (vs ws : List Value) : Prop where
  nulls : vs.map Value.isNull = ws.map Value.isNull
  flags : op = .null ∨ op = .notNull →
    ∀ a b, Arguments.flag vs = .ok a → Arguments.flag ws = .ok b → a = b

/-! ## Shapes -/

section Shapes

variable {symbol column : String} {dialect : Dialect} {vs ws : List Value} {c d : Condition}

/-- Whether a value is null is all that the shape of a comparison shows of it. -/
theorem shape_compare {op : Comparison} {v w : Value} (h : v.isNull = w.isNull) :
    (Condition.compare column op v).shape = (Condition.compare column op w).shape := by
  rw [Condition.shape, Condition.shape, h]

/-- The same goes for an exact comparison. -/
theorem shape_equalsExactly {v w : Value} (hnull : v.isNull = w.isNull)
    (hc : equalsExactly ⟨symbol, column, vs, dialect⟩ v = .ok c)
    (hd : equalsExactly ⟨symbol, column, ws, dialect⟩ w = .ok d) : c.shape = d.shape := by
  cases dialect with
  | postgres | sqlite =>
      cases hc
      cases hd
      exact shape_compare hnull
  | mysql | mssql =>
      cases hc
      cases hd
      rfl
  | other name => cases hc

/-- The shape of a match shows nothing of the pattern. -/
theorem shape_matchesLoosely (p q : String) (negated : Bool) :
    (matchesLoosely ⟨symbol, column, vs, dialect⟩ p negated).shape =
      (matchesLoosely ⟨symbol, column, ws, dialect⟩ q negated).shape := by
  cases dialect <;> rfl

/-- Nor does that of an exact match. -/
theorem shape_matchesExactly {p q : String} {negated : Bool}
    (hc : matchesExactly ⟨symbol, column, vs, dialect⟩ p negated = .ok c)
    (hd : matchesExactly ⟨symbol, column, ws, dialect⟩ q negated = .ok d) :
    c.shape = d.shape := by
  cases dialect with
  | postgres | mysql | sqlite | mssql =>
      cases hc
      cases hd
      rfl
  | other name => cases hc

/-- A built-in operator makes conditions of the same shape of arguments that agree. -/
theorem shape_build {op : Operator} (hagree : op.Agree vs ws)
    (hc : op.build ⟨symbol, column, vs, dialect⟩ = .ok c)
    (hd : op.build ⟨symbol, column, ws, dialect⟩ = .ok d) : c.shape = d.shape := by
  have hnulls := hagree.nulls
  cases op with
  | equals | notEquals =>
      obtain ⟨v, hv, hc⟩ := Invocation.fit_bind_eq_ok_iff.mp hc
      obtain ⟨w, hw, hd⟩ := Invocation.fit_bind_eq_ok_iff.mp hd
      cases hc
      cases hd
      have hvs := (Arguments.single_eq_ok_iff.mp hv).1
      have hws := (Arguments.single_eq_ok_iff.mp hw).1
      simp only at hvs hws
      rw [hvs, hws] at hnulls
      exact shape_compare (by simpa using hnulls)
  | lessThan | lessOrEqual | greaterThan | greaterOrEqual =>
      obtain ⟨v, hv, hc⟩ := Invocation.fit_bind_eq_ok_iff.mp hc
      obtain ⟨w, hw, hd⟩ := Invocation.fit_bind_eq_ok_iff.mp hd
      cases hc
      cases hd
      have hvnull := Value.isNull_of_present (Arguments.ordered_eq_ok_iff.mp hv).2
      have hwnull := Value.isNull_of_present (Arguments.ordered_eq_ok_iff.mp hw).2
      exact shape_compare (hvnull.trans hwnull.symm)
  | equalsCaseSensitive =>
      obtain ⟨v, hv, hc⟩ := Invocation.fit_bind_eq_ok_iff.mp hc
      obtain ⟨w, hw, hd⟩ := Invocation.fit_bind_eq_ok_iff.mp hd
      have hvnull := Value.isNull_of_present (Arguments.ordered_eq_ok_iff.mp hv).2
      have hwnull := Value.isNull_of_present (Arguments.ordered_eq_ok_iff.mp hw).2
      exact shape_equalsExactly (hvnull.trans hwnull.symm) hc hd
  | isIn | notIn =>
      obtain ⟨us, hv, hc⟩ := Invocation.fit_bind_eq_ok_iff.mp hc
      obtain ⟨xs, hw, hd⟩ := Invocation.fit_bind_eq_ok_iff.mp hd
      cases hc
      cases hd
      obtain ⟨rfl, -⟩ := Arguments.choice_eq_ok_iff.mp hv
      obtain ⟨rfl, -⟩ := Arguments.choice_eq_ok_iff.mp hw
      have hlength := congrArg List.length hnulls
      simp only [List.length_map] at hlength
      simp only [Condition.shape, List.map_const', hlength]
  | null | notNull =>
      obtain ⟨a, ha, hc⟩ := Invocation.fit_bind_eq_ok_iff.mp hc
      obtain ⟨b, hb, hd⟩ := Invocation.fit_bind_eq_ok_iff.mp hd
      cases hc
      cases hd
      rw [hagree.flags (by simp) a b ha hb]
  | between | notBetween =>
      obtain ⟨bounds, -, hc⟩ := Invocation.fit_bind_eq_ok_iff.mp hc
      obtain ⟨bounds', -, hd⟩ := Invocation.fit_bind_eq_ok_iff.mp hd
      cases hc
      cases hd
      rfl
  | like | contains | notContains | startsWith | endsWith =>
      obtain ⟨p, -, hc⟩ := Invocation.fit_bind_eq_ok_iff.mp hc
      obtain ⟨q, -, hd⟩ := Invocation.fit_bind_eq_ok_iff.mp hd
      cases hc
      cases hd
      exact shape_matchesLoosely _ _ _
  | likeCaseSensitive | containsCaseSensitive | notContainsCaseSensitive
  | startsWithCaseSensitive | endsWithCaseSensitive =>
      obtain ⟨p, -, hc⟩ := Invocation.fit_bind_eq_ok_iff.mp hc
      obtain ⟨q, -, hd⟩ := Invocation.fit_bind_eq_ok_iff.mp hd
      exact shape_matchesExactly hc hd

end Shapes

end Operator

/-- So does an entry of a registry that is a built-in operator. -/
theorem Registry.Entry.shape_build {e : Entry} (he : e.BuiltIn) {column : String}
    {vs ws : List Value} {dialect : Dialect} {c d : Condition}
    (hagree : ∀ op, e.kind = some op → op.Agree vs ws)
    (hc : e.build column vs dialect = .ok c) (hd : e.build column ws dialect = .ok d) :
    c.shape = d.shape := by
  obtain ⟨op, hop⟩ := he
  rw [hop] at hc hd
  exact Operator.shape_build (hagree op (by rw [hop])) hc hd

end Sift
