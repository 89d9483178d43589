import Sift.Proofs.Reported
import Sift.Registry

/-!
# Sift.Proofs.Operator.Build

The conditions that built-in operators make, whichever operator it is.

Main statement: `column_build` — a condition is about the column that the operator was
called on.
-/

namespace Sift

namespace Invocation

/-- What is made of checked arguments is made if the check of the arguments goes through. -/
theorem fit_bind_eq_ok_iff {α β : Type} {inv : Invocation}
    {check : List Value → Except ArgumentFault α} {next : α → Except Fault β} {b : β} :
    (inv.fit check >>= next) = .ok b ↔ ∃ a, check inv.arguments = .ok a ∧ next a = .ok b := by
  rw [except_bind_eq_ok_iff, fit]
  cases check inv.arguments with
  | error e => exact iff_of_false (fun ⟨_, h, _⟩ => nomatch h) (fun ⟨_, h, _⟩ => nomatch h)
  | ok a =>
      constructor
      · rintro ⟨_, ⟨⟩, hnext⟩
        exact ⟨a, rfl, hnext⟩
      · rintro ⟨_, ⟨⟩, hnext⟩
        exact ⟨a, rfl, hnext⟩

/-- It is then made of what the check gives. -/
theorem fit_bind_of_ok {α β : Type} {inv : Invocation}
    {check : List Value → Except ArgumentFault α} {a : α} (h : check inv.arguments = .ok a)
    (next : α → Except Fault β) : (inv.fit check >>= next) = next a := by
  rw [fit, h]
  rfl

/-- Otherwise the fault of the check is passed on. -/
theorem fit_bind_of_error {α β : Type} {inv : Invocation}
    {check : List Value → Except ArgumentFault α} {fault : ArgumentFault}
    (h : check inv.arguments = .error fault) (next : α → Except Fault β) :
    (inv.fit check >>= next) = .error (.invalidArguments inv.symbol fault) := by
  rw [fit, h]
  rfl

end Invocation

namespace Operator

/-! ## The column -/

section Column

variable {inv : Invocation} {c : Condition} {pattern : String} {negated : Bool}

theorem column_equalsExactly {v : Value} (h : equalsExactly inv v = .ok c) :
    c.column = inv.column := by
  unfold equalsExactly at h
  cases hd : inv.dialect <;> simp only [hd, Except.ok.injEq, reduceCtorEq] at h <;> subst h <;> rfl

theorem column_matchesLoosely : (matchesLoosely inv pattern negated).column = inv.column := by
  unfold matchesLoosely
  cases inv.dialect <;> rfl

theorem column_matchesExactly (h : matchesExactly inv pattern negated = .ok c) :
    c.column = inv.column := by
  unfold matchesExactly at h
  cases hd : inv.dialect <;> simp only [hd, Except.ok.injEq, reduceCtorEq] at h <;> subst h <;> rfl

/-- A condition is about the column that the operator was called on. -/
theorem column_build {op : Operator} (h : op.build inv = .ok c) : c.column = inv.column := by
  cases op with
  | equals | notEquals | lessThan | lessOrEqual | greaterThan | greaterOrEqual | isIn | notIn
  | null | notNull | between | notBetween =>
      obtain ⟨a, -, h⟩ := Invocation.fit_bind_eq_ok_iff.mp h
      cases h
      rfl
  | equalsCaseSensitive =>
      obtain ⟨v, -, h⟩ := Invocation.fit_bind_eq_ok_iff.mp h
      exact column_equalsExactly h
  | like | contains | notContains | startsWith | endsWith =>
      obtain ⟨s, -, h⟩ := Invocation.fit_bind_eq_ok_iff.mp h
      cases h
      exact column_matchesLoosely
  | likeCaseSensitive | containsCaseSensitive | notContainsCaseSensitive
  | startsWithCaseSensitive | endsWithCaseSensitive =>
      obtain ⟨s, -, h⟩ := Invocation.fit_bind_eq_ok_iff.mp h
      exact column_matchesExactly h

end Column

end Operator

/-! ## Registries of built-in operators -/

namespace Registry

/-- An entry is a built-in operator under some symbol. -/
def Entry.BuiltIn (e : Entry) : Prop := ∃ op, e = ⟨e.symbol, some op, op.build⟩

/-- Only built-in operators are registered, under any symbols. -/
def BuiltIn (r : Registry) : Prop := ∀ e ∈ r.entries, e.2.BuiltIn

/-- By default only built-in operators are registered. -/
theorem builtIn_defaults : defaults.BuiltIn := by
  intro e he
  obtain ⟨op, -, rfl⟩ := List.mem_map.mp he
  exact ⟨op, rfl⟩

/-- What is found in a registry of built-in operators is one. -/
theorem BuiltIn.of_lookup {r : Registry} (h : r.BuiltIn) {symbol : String} {e : Entry}
    (he : r.lookup symbol = some e) : e.BuiltIn :=
  h _ (lookup_eq_some_iff.mp he)

/-- A built-in operator makes conditions on the column that it is asked for. -/
theorem Entry.column_build {e : Entry} (he : e.BuiltIn) {column : String}
    {arguments : List Value} {dialect : Dialect} {c : Condition}
    (h : e.build column arguments dialect = .ok c) : c.column = column := by
  obtain ⟨op, hop⟩ := he
  rw [hop] at h
  exact Operator.column_build h

end Registry

end Sift
