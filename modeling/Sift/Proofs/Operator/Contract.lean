import Sift.Proofs.Operator.Arguments
import Sift.Proofs.Operator.Template

/-!
# Sift.Proofs.Operator.Contract

What an operator takes, what it makes of that, and how it refuses the rest.

Main statements:

* `build_of_not_met` — arguments that an operator does not take are refused in the same way in
  every dialect;
* `exists_build_of_met`, `build_of_met_of_not_writtenIn` — of others it makes a condition, but in
  a dialect that it cannot be written in;
* `sound_build` — what a condition holds are scalars;
* `contract` — all of this together.
-/

namespace Sift

namespace Operator

/-! ## What is asked of arguments -/

/-- What an operator asks of its arguments. -/
inductive Demand where
  /-- One scalar. -/
  | scalar
  /-- One scalar other than null. -/
  | present
  /-- One or more scalars other than null. -/
  | choice
  /-- Two scalars other than null. -/
  | range
  /-- One value that says yes or no, or none. -/
  | flag
  /-- One text or number. -/
  | text
deriving DecidableEq, Repr

/-- Arguments are what is asked for. -/
def Demand.Met : Demand → List Value → Prop
  | .scalar, vs => ∃ v, vs = [v] ∧ v.Scalar
  | .present, vs => ∃ v, vs = [v] ∧ v.Present
  | .choice, vs => vs ≠ [] ∧ ∀ v ∈ vs, v.Present
  | .range, vs => ∃ low high, vs = [low, high] ∧ low.Present ∧ high.Present
  | .flag, vs => vs = [] ∨ ∃ v, vs = [v] ∧ v.SpellsFlag
  | .text, vs => ∃ v, vs = [v] ∧ v.SpellsText

/-- What each operator asks for. -/
def demand : Operator → Demand
  | .equals | .notEquals => .scalar
  | .equalsCaseSensitive | .lessThan | .lessOrEqual | .greaterThan | .greaterOrEqual => .present
  | .isIn | .notIn => .choice
  | .between | .notBetween => .range
  | .null | .notNull => .flag
  | .like | .likeCaseSensitive | .contains | .notContains | .containsCaseSensitive
  | .notContainsCaseSensitive | .startsWith | .startsWithCaseSensitive | .endsWith
  | .endsWithCaseSensitive => .text

/-- An operator can be written in a dialect: one that tells large letters from small ones is
known in the dialects of their own only. -/
def WrittenIn (op : Operator) (d : Dialect) : Prop :=
  ¬ (op.isCaseSensitive = true ∧ ∃ name, d = .other name)

namespace Demand

variable {vs : List Value}

/-- The demand for a scalar is met exactly by what the check lets through; so are the others. -/
theorem met_scalar_iff : scalar.Met vs ↔ ∃ v, Arguments.single vs = .ok v :=
  exists_congr fun _ => Arguments.single_eq_ok_iff.symm

theorem met_present_iff : present.Met vs ↔ ∃ v, Arguments.ordered vs = .ok v :=
  exists_congr fun _ => Arguments.ordered_eq_ok_iff.symm

theorem met_choice_iff : choice.Met vs ↔ ∃ ws, Arguments.choice vs = .ok ws := by
  simp [Met, Arguments.choice_eq_ok_iff]

theorem met_range_iff : range.Met vs ↔ ∃ bounds, Arguments.pair vs = .ok bounds := by
  simp [Met, Prod.exists, Arguments.pair_eq_ok_iff]

theorem met_flag_iff : flag.Met vs ↔ ∃ b, Arguments.flag vs = .ok b :=
  Arguments.exists_flag_iff.symm

theorem met_text_iff : text.Met vs ↔ ∃ t, Arguments.text vs = .ok t :=
  Arguments.exists_text_iff.symm

end Demand

/-! ## Arguments that are refused -/

section Refused

variable {op : Operator} {vs : List Value}

/-- A check that does not let arguments through gives a fault. -/
theorem exists_eq_error {α : Type} {check : List Value → Except ArgumentFault α}
    (h : ¬ ∃ a, check vs = .ok a) : ∃ fault, check vs = .error fault := by
  cases hcheck : check vs with
  | error fault => exact ⟨fault, rfl⟩
  | ok a => exact absurd ⟨a, hcheck⟩ h

/-- Arguments that an operator does not take are refused for the same fault in every dialect. -/
theorem build_of_not_met (h : ¬ op.demand.Met vs) : ∃ fault, ∀ symbol column dialect,
    op.build ⟨symbol, column, vs, dialect⟩ = .error (.invalidArguments symbol fault) := by
  cases op with
  | equals | notEquals =>
      obtain ⟨fault, hfault⟩ := exists_eq_error (mt Demand.met_scalar_iff.mpr h)
      exact ⟨fault, fun _ _ _ => Invocation.fit_bind_of_error hfault _⟩
  | equalsCaseSensitive | lessThan | lessOrEqual | greaterThan | greaterOrEqual =>
      obtain ⟨fault, hfault⟩ := exists_eq_error (mt Demand.met_present_iff.mpr h)
      exact ⟨fault, fun _ _ _ => Invocation.fit_bind_of_error hfault _⟩
  | isIn | notIn =>
      obtain ⟨fault, hfault⟩ := exists_eq_error (mt Demand.met_choice_iff.mpr h)
      exact ⟨fault, fun _ _ _ => Invocation.fit_bind_of_error hfault _⟩
  | between | notBetween =>
      obtain ⟨fault, hfault⟩ := exists_eq_error (mt Demand.met_range_iff.mpr h)
      exact ⟨fault, fun _ _ _ => Invocation.fit_bind_of_error hfault _⟩
  | null | notNull =>
      obtain ⟨fault, hfault⟩ := exists_eq_error (mt Demand.met_flag_iff.mpr h)
      exact ⟨fault, fun _ _ _ => Invocation.fit_bind_of_error hfault _⟩
  | like | likeCaseSensitive | contains | notContains | containsCaseSensitive
  | notContainsCaseSensitive | startsWith | startsWithCaseSensitive | endsWith
  | endsWithCaseSensitive =>
      obtain ⟨fault, hfault⟩ := exists_eq_error (mt Demand.met_text_iff.mpr h)
      exact ⟨fault, fun _ _ _ => Invocation.fit_bind_of_error hfault _⟩

end Refused

/-! ## Arguments that are taken -/

section Taken

variable {op : Operator} {inv : Invocation}

/-- In every known dialect there is an exact comparison. -/
theorem exists_equalsExactly (h : ∀ name, inv.dialect ≠ .other name) (v : Value) :
    ∃ c, equalsExactly inv v = .ok c := by
  unfold equalsExactly
  cases hd : inv.dialect with
  | postgres | mysql | sqlite | mssql => exact ⟨_, rfl⟩
  | other name => exact absurd hd (h name)

/-- In every known dialect there is an exact match. -/
theorem exists_matchesExactly (h : ∀ name, inv.dialect ≠ .other name) (pattern : String)
    (negated : Bool) : ∃ c, matchesExactly inv pattern negated = .ok c := by
  unfold matchesExactly
  cases hd : inv.dialect with
  | postgres | mysql | sqlite | mssql => exact ⟨_, rfl⟩
  | other name => exact absurd hd (h name)

/-- Of arguments that an operator takes it makes a condition, in a dialect that it can be written
in. -/
theorem exists_build_of_met (h : op.demand.Met inv.arguments) (hd : op.WrittenIn inv.dialect) :
    ∃ c, op.build inv = .ok c := by
  cases op with
  | equals | notEquals =>
      obtain ⟨v, hv⟩ := Demand.met_scalar_iff.mp h
      exact ⟨_, Invocation.fit_bind_of_ok hv _⟩
  | lessThan | lessOrEqual | greaterThan | greaterOrEqual =>
      obtain ⟨v, hv⟩ := Demand.met_present_iff.mp h
      exact ⟨_, Invocation.fit_bind_of_ok hv _⟩
  | equalsCaseSensitive =>
      obtain ⟨v, hv⟩ := Demand.met_present_iff.mp h
      obtain ⟨c, hc⟩ := exists_equalsExactly (fun name hname => hd ⟨rfl, name, hname⟩) v
      exact ⟨c, (Invocation.fit_bind_of_ok hv _).trans hc⟩
  | isIn | notIn =>
      obtain ⟨ws, hws⟩ := Demand.met_choice_iff.mp h
      exact ⟨_, Invocation.fit_bind_of_ok hws _⟩
  | between | notBetween =>
      obtain ⟨bounds, hbounds⟩ := Demand.met_range_iff.mp h
      exact ⟨_, Invocation.fit_bind_of_ok hbounds _⟩
  | null | notNull =>
      obtain ⟨b, hb⟩ := Demand.met_flag_iff.mp h
      exact ⟨_, Invocation.fit_bind_of_ok hb _⟩
  | like | contains | notContains | startsWith | endsWith =>
      obtain ⟨t, ht⟩ := Demand.met_text_iff.mp h
      exact ⟨_, Invocation.fit_bind_of_ok ht _⟩
  | likeCaseSensitive | containsCaseSensitive | notContainsCaseSensitive
  | startsWithCaseSensitive | endsWithCaseSensitive =>
      obtain ⟨t, ht⟩ := Demand.met_text_iff.mp h
      obtain ⟨c, hc⟩ := exists_matchesExactly (fun name hname => hd ⟨rfl, name, hname⟩) _ _
      exact ⟨c, (Invocation.fit_bind_of_ok ht _).trans hc⟩

/-- In any other dialect the operator is refused. -/
theorem build_of_met_of_not_writtenIn (h : op.demand.Met inv.arguments)
    (hd : ¬ op.WrittenIn inv.dialect) : op.build inv = .error inv.unsupported := by
  obtain ⟨symbol, column, vs, dialect⟩ := inv
  obtain ⟨hexact, name, rfl⟩ := Classical.not_not.mp hd
  cases op with
  | equalsCaseSensitive =>
      obtain ⟨v, hv⟩ := Demand.met_present_iff.mp h
      exact Invocation.fit_bind_of_ok hv _
  | likeCaseSensitive | containsCaseSensitive | notContainsCaseSensitive
  | startsWithCaseSensitive | endsWithCaseSensitive =>
      obtain ⟨t, ht⟩ := Demand.met_text_iff.mp h
      exact Invocation.fit_bind_of_ok ht _
  | _ => cases hexact

/-- An operator is refused for its arguments or for the dialect. -/
theorem eq_of_build_eq_error {e : Fault} (h : op.build inv = .error e) :
    (∃ fault, e = .invalidArguments inv.symbol fault) ∨ e = inv.unsupported := by
  by_cases hmet : op.demand.Met inv.arguments
  · by_cases hd : op.WrittenIn inv.dialect
    · obtain ⟨c, hc⟩ := exists_build_of_met hmet hd
      cases hc.symm.trans h
    · exact .inr (Except.error.inj (h.symm.trans (build_of_met_of_not_writtenIn hmet hd)))
  · obtain ⟨fault, hfault⟩ := build_of_not_met hmet
    exact .inl ⟨fault, Except.error.inj (h.symm.trans (hfault ..))⟩

end Taken

end Operator

/-! ## What conditions hold -/

/-- How often a word begins in a text. -/
def Text.occurrences (word : List Char) : List Char → Nat
  | [] => 0
  | c :: cs => (if word.isPrefixOf (c :: cs) then 1 else 0) + occurrences word cs

namespace Condition

/-- A condition holds scalars, and null only where a column may be compared with it.  There is
something to choose from, and a template has one mark for the column and as many for values as
there are. -/
def Sound : Condition → Prop
  | .compare _ op v => v.Scalar ∧ (v.kind = .null → op = .eq ∨ op = .ne)
  | .among _ vs _ => vs ≠ [] ∧ ∀ v ∈ vs, v.Present
  | .null _ _ => True
  | .between _ low high _ => low.Present ∧ high.Present
  | .like _ _ _ => True
  | .raw _ template params =>
    (∀ v ∈ params, v.Present) ∧
      Text.occurrences columnMark.toList template.toList = 1 ∧
      Text.occurrences ['?'] template.toList = params.length

end Condition

namespace Operator

variable {op : Operator} {inv : Invocation} {c : Condition}

/-- Each template has one mark of either kind. -/
theorem occurrences_templates : ∀ t ∈ templates,
    Text.occurrences Condition.columnMark.toList t.text.toList = 1 ∧
      Text.occurrences ['?'] t.text.toList = 1 := by
  decide

/-- One of the templates, with a present value, is sound. -/
theorem sound_raw {column template : String} {v : Value} (hv : v.Present)
    (h : Templated (.raw column template [v])) : (Condition.raw column template [v]).Sound := by
  obtain ⟨t, ht, _, rfl, -⟩ := h
  exact ⟨List.forall_mem_singleton.mpr hv, occurrences_templates t ht⟩

/-- So is a comparison with a present value. -/
theorem sound_compare {column : String} {comparison : Comparison} {v : Value} (hv : v.Present) :
    (Condition.compare column comparison v).Sound :=
  ⟨hv.1, fun hnull => absurd hnull hv.2⟩

/-- So is an exact comparison, in whatever dialect. -/
theorem sound_equalsExactly {v : Value} (hv : v.Present) (h : equalsExactly inv v = .ok c) :
    c.Sound := by
  have htemplated := templated_equalsExactly h
  unfold equalsExactly at h
  cases hd : inv.dialect with
  | postgres | sqlite =>
      simp only [hd, Except.ok.injEq] at h
      subst h
      exact sound_compare hv
  | mysql | mssql =>
      simp only [hd, Except.ok.injEq] at h
      subst h
      exact sound_raw hv htemplated
  | other name => simp [hd] at h

/-- So is a match without regard to case. -/
theorem sound_matchesLoosely (inv : Invocation) (pattern : String) (negated : Bool) :
    (matchesLoosely inv pattern negated).Sound := by
  have htemplated := templated_matchesLoosely inv pattern negated
  unfold matchesLoosely at htemplated ⊢
  cases hd : inv.dialect with
  | mysql | sqlite | mssql => trivial
  | postgres | other =>
      rw [hd] at htemplated
      exact sound_raw (Value.present_text pattern) htemplated

/-- So is an exact match. -/
theorem sound_matchesExactly {pattern : String} {negated : Bool}
    (h : matchesExactly inv pattern negated = .ok c) : c.Sound := by
  have htemplated := templated_matchesExactly h
  unfold matchesExactly at h
  cases hd : inv.dialect with
  | other name => simp [hd] at h
  | postgres | mysql | sqlite | mssql =>
      simp only [hd, Except.ok.injEq] at h
      subst h
      exact sound_raw (Value.present_text _) htemplated

/-- What a built-in operator makes is sound. -/
theorem sound_build (h : op.build inv = .ok c) : c.Sound := by
  cases op with
  | equals =>
      obtain ⟨v, hv, h⟩ := Invocation.fit_bind_eq_ok_iff.mp h
      cases h
      exact ⟨(Arguments.single_eq_ok_iff.mp hv).2, fun _ => .inl rfl⟩
  | notEquals =>
      obtain ⟨v, hv, h⟩ := Invocation.fit_bind_eq_ok_iff.mp h
      cases h
      exact ⟨(Arguments.single_eq_ok_iff.mp hv).2, fun _ => .inr rfl⟩
  | lessThan | lessOrEqual | greaterThan | greaterOrEqual =>
      obtain ⟨v, hv, h⟩ := Invocation.fit_bind_eq_ok_iff.mp h
      cases h
      exact sound_compare (Arguments.ordered_eq_ok_iff.mp hv).2
  | equalsCaseSensitive =>
      obtain ⟨v, hv, h⟩ := Invocation.fit_bind_eq_ok_iff.mp h
      exact sound_equalsExactly (Arguments.ordered_eq_ok_iff.mp hv).2 h
  | isIn | notIn =>
      obtain ⟨ws, hws, h⟩ := Invocation.fit_bind_eq_ok_iff.mp h
      cases h
      obtain ⟨rfl, hsound⟩ := Arguments.choice_eq_ok_iff.mp hws
      exact hsound
  | null | notNull =>
      obtain ⟨b, -, h⟩ := Invocation.fit_bind_eq_ok_iff.mp h
      cases h
      trivial
  | between | notBetween =>
      obtain ⟨⟨low, high⟩, hbounds, h⟩ := Invocation.fit_bind_eq_ok_iff.mp h
      cases h
      exact (Arguments.pair_eq_ok_iff.mp hbounds).2
  | like | contains | notContains | startsWith | endsWith =>
      obtain ⟨t, -, h⟩ := Invocation.fit_bind_eq_ok_iff.mp h
      cases h
      exact sound_matchesLoosely ..
  | likeCaseSensitive | containsCaseSensitive | notContainsCaseSensitive
  | startsWithCaseSensitive | endsWithCaseSensitive =>
      obtain ⟨t, -, h⟩ := Invocation.fit_bind_eq_ok_iff.mp h
      exact sound_matchesExactly h

/-! ## The contract -/

/-- What an operator does with arguments, whatever symbol it is called by. -/
structure Contract (op : Operator) (vs : List Value) : Prop where
  /-- It makes a condition exactly of arguments that it takes, in a dialect that it can be written
  in. -/
  accepts_iff : ∀ symbol column dialect,
    (∃ c, op.build ⟨symbol, column, vs, dialect⟩ = .ok c) ↔
      op.demand.Met vs ∧ op.WrittenIn dialect
  /-- Arguments that it does not take are refused in the same way in every dialect. -/
  refuses_arguments : ¬ op.demand.Met vs → ∃ fault, ∀ symbol column dialect,
    op.build ⟨symbol, column, vs, dialect⟩ = .error (.invalidArguments symbol fault)
  /-- A dialect is refused only with arguments that it takes. -/
  refuses_dialect : op.demand.Met vs → ∀ symbol column dialect, ¬ op.WrittenIn dialect →
    op.build ⟨symbol, column, vs, dialect⟩ = .error (.unsupportedDialect dialect.name symbol)
  /-- A condition is about the column, and sound. -/
  makes : ∀ symbol column dialect c, op.build ⟨symbol, column, vs, dialect⟩ = .ok c →
    c.column = column ∧ c.Sound

/-- Every built-in operator keeps its contract. -/
theorem contract (op : Operator) (vs : List Value) : op.Contract vs where
  accepts_iff symbol column dialect := by
    constructor
    · rintro ⟨c, hc⟩
      by_cases hmet : op.demand.Met vs
      · by_cases hd : op.WrittenIn dialect
        · exact ⟨hmet, hd⟩
        · cases hc.symm.trans (build_of_met_of_not_writtenIn hmet hd)
      · obtain ⟨fault, hfault⟩ := build_of_not_met hmet
        cases hc.symm.trans (hfault ..)
    · rintro ⟨hmet, hd⟩
      exact exists_build_of_met hmet hd
  refuses_arguments := build_of_not_met
  refuses_dialect hmet _ _ _ hd := build_of_met_of_not_writtenIn hmet hd
  makes _ _ _ _ h := ⟨column_build h, sound_build h⟩

end Operator

end Sift
