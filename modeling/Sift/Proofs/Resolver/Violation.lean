import Sift.Proofs.Operator.Contract
import Sift.Proofs.Resolver.Acceptance

/-!
# Sift.Proofs.Resolver.Violation

Why a filter is refused.  The walk goes through a filter in the order of the document and stops
at the first thing that is wrong.

Main statements:

* `validate_eq_error_iff` — the check before the walk fails if no operator can be reached;
* `outcome_gather_eq_error_iff` — the walk fails exactly with the first violation;
* `outcome_resolve_eq_error_iff` — resolving fails exactly with the first fault.
-/

namespace Sift

namespace Gathered

variable {M : Type}

/-- What is gathered in turn ends as the first part, unless that goes through. -/
theorem outcome_andThen (x y : Gathered M) :
    (x.andThen y).outcome = (x.outcome >>= fun _ => y.outcome) := by
  obtain ⟨ps, outcome⟩ := x
  cases outcome <;> rfl

/-- Two parts end with a fault when the first does, or the second where the first goes through. -/
theorem outcome_andThen_eq_error_iff {x y : Gathered M} {e : Fault} :
    (x.andThen y).outcome = .error e ↔
      x.outcome = .error e ∨ x.outcome = .ok () ∧ y.outcome = .error e := by
  rw [outcome_andThen, except_bind_eq_error_iff]
  exact or_congr_right ⟨fun ⟨_, h⟩ => h, fun h => ⟨(), h⟩⟩

theorem outcome_one_eq_error_iff {p : Except Fault (Placement M)} {e : Fault} :
    (one p).outcome = .error e ↔ p = .error e := by
  cases p <;> simp [one]

end Gathered

namespace Resolver

variable {M : Type}

/-! ## Out of reach -/

/-- In the first entries of a filter there is nothing, or no group, before there is a group with
an operator among its keys. -/
inductive OutOfReach (r : Resolver) : Filter → Prop
  | leaf (v : Value) : OutOfReach r (.leaf v)
  | empty : OutOfReach r (.group [])
  | first {key : String} {f : Filter} {rest : List (String × Filter)}
      (hkeys : ∀ e ∈ (key, f) :: rest, e.1 ∉ r.registry.symbols) (h : OutOfReach r f) :
      OutOfReach r (.group ((key, f) :: rest))

/-- A group has an operator if a key of it is registered. -/
theorem hasOperator_iff {r : Resolver} {entries : List (String × Filter)} :
    r.hasOperator entries = true ↔ ∃ e ∈ entries, e.1 ∈ r.registry.symbols := by
  simp only [hasOperator, List.any_eq_true, Registry.contains_iff]

/-- The check before a walk fails exactly if no operator can be reached, with the registered
symbols. -/
theorem validate_eq_error_iff {r : Resolver} {e : Fault} : {f : Filter} →
    (r.validate f = .error e ↔ r.OutOfReach f ∧ e = .noOperator r.registry.symbols)
  | .leaf v => by
      rw [validate, Except.error.injEq]
      exact ⟨fun h => ⟨.leaf v, h.symm⟩, fun h => h.2.symm⟩
  | .group [] => by
      rw [validate, if_neg (by simp [hasOperator]), validateFirst, Except.error.injEq]
      exact ⟨fun h => ⟨.empty, h.symm⟩, fun h => h.2.symm⟩
  | .group ((key, f) :: rest) => by
      have hf := validate_eq_error_iff (r := r) (e := e) (f := f)
      rw [validate]
      split
      · next hop =>
          obtain ⟨x, hx, hsymbol⟩ := hasOperator_iff.mp hop
          constructor
          · intro h
            cases h
          · rintro ⟨h, -⟩
            cases h with
            | first hkeys _ => exact absurd hsymbol (hkeys x hx)
      · next hop =>
          have hkeys : ∀ x ∈ (key, f) :: rest, x.1 ∉ r.registry.symbols :=
            fun x hx hsymbol => hop (hasOperator_iff.mpr ⟨x, hx, hsymbol⟩)
          rw [validateFirst, hf]
          constructor
          · rintro ⟨h, he⟩
            exact ⟨.first hkeys h, he⟩
          · rintro ⟨h, he⟩
            cases h with
            | first _ h => exact ⟨h, he⟩

/-! ## Violations -/

variable (r : Resolver) (g : ModelGraph M) (dialect : Dialect)

mutual

/-- The first thing that is wrong with a filter under a field of a model.  Either there is
nothing under the field, or some entry is wrong behind others that are accepted. -/
inductive Violation : M → String → Filter → Fault → Prop
  | leaf {m : M} {field : String} {v : Value} :
      Violation m field (.leaf v) (.noOperator r.registry.symbols)
  | empty {m : M} {field : String} :
      Violation m field (.group []) (.noOperator r.registry.symbols)
  | entry {m : M} {field key : String} {f : Filter}
      {entries before after : List (String × Filter)} {e : Fault}
      (hentries : entries = before ++ (key, f) :: after)
      (hbefore : r.AcceptsEach g dialect m field before)
      (h : EntryViolation m field key f e) : Violation m field (.group entries) e

/-- The first thing that is wrong with an entry under a field of a model. -/
inductive EntryViolation : M → String → String → Filter → Fault → Prop
  /-- The model does not have the field. -/
  | unknownField {m : M} {field key : String} {f : Filter} (hfield : field ∉ g.fields m) :
      EntryViolation m field key f (.fieldNotSupported field (g.name m) (g.fields m))
  /-- The field is restricted to other keys. -/
  | restricted {m : M} {field key : String} {f : Filter} {allowed : List String}
      (hfield : field ∈ g.fields m) (hallowed : g.allowed m field = some allowed)
      (hkey : key ∉ allowed) :
      EntryViolation m field key f (.operatorNotSupported field key allowed)
  /-- The key is no operator, and the field is no relation. -/
  | noRelation {m : M} {field key : String} {f : Filter} (hpermits : g.Permits m field key)
      (hkey : key ∉ r.registry.symbols) (hrelation : g.relation m field = none) :
      EntryViolation m field key f (.fieldNotSupported field (g.name m) (g.fields m))
  /-- The key is no operator, and something is wrong with it on the related model. -/
  | related {m related : M} {join : Join} {field key : String} {f : Filter} {e : Fault}
      (hpermits : g.Permits m field key) (hkey : key ∉ r.registry.symbols)
      (hrelation : g.relation m field = some (related, join)) (h : Violation related key f e) :
      EntryViolation m field key f e
  /-- A group stands where the arguments of an operator belong. -/
  | nested {m : M} {field key : String} {entries : List (String × Filter)}
      (hpermits : g.Permits m field key) (hkey : key ∈ r.registry.symbols) :
      EntryViolation m field key (.group entries) (.invalidArguments key .nested)
  /-- The operator refuses its arguments, or the dialect. -/
  | refused {m : M} {field key : String} {f : Filter} {o : Registry.Entry} {vs : List Value}
      {e : Fault} (hpermits : g.Permits m field key) (hkey : r.registry.lookup key = some o)
      (harguments : f.arguments? = some vs) (h : o.build field vs dialect = .error e) :
      EntryViolation m field key f e

end

variable {r g dialect}

/-- A condition is not placed where a group stands, or where the operator refuses. -/
theorem place_eq_error_iff {field : String} {o : Registry.Entry} {f : Filter} {e : Fault} :
    place (M := M) dialect field o f = .error e ↔
      f.arguments? = none ∧ e = .invalidArguments o.symbol .nested ∨
        ∃ vs, f.arguments? = some vs ∧ o.build field vs dialect = .error e := by
  cases hargs : f.arguments? with
  | none => simp [place, hargs, eq_comm]
  | some vs =>
      cases hbuild : o.build field vs dialect <;> simp [place, hargs, hbuild, Except.map]

/-- Only a group has no arguments in it. -/
theorem exists_group_of_arguments? {f : Filter} (h : f.arguments? = none) :
    ∃ entries, f = .group entries := by
  cases f with
  | group entries => exact ⟨entries, rfl⟩
  | leaf v => cases v <;> cases h

/-- Something is found under every registered symbol. -/
theorem exists_lookup_of_mem_symbols {registry : Registry} {key : String}
    (h : key ∈ registry.symbols) : ∃ o, registry.lookup key = some o :=
  Option.isSome_iff_exists.mp (Registry.contains_iff.mpr h)

/-- A field is refused exactly if the model does not have it. -/
theorem checkField_eq_error_iff {m : M} {field : String} {e : Fault} :
    g.checkField m field = .error e ↔
      field ∉ g.fields m ∧ e = .fieldNotSupported field (g.name m) (g.fields m) := by
  by_cases hfield : field ∈ g.fields m
  · simp [ModelGraph.checkField, ModelGraph.isFilterable, hfield]
  · simp [ModelGraph.checkField, ModelGraph.isFilterable, hfield, ModelGraph.noField, eq_comm]

/-- A key is refused on a field exactly if the field is restricted to other keys. -/
theorem checkOperator_eq_error_iff {m : M} {field key : String} {e : Fault} :
    g.checkOperator m field key = .error e ↔
      ∃ allowed, g.allowed m field = some allowed ∧ key ∉ allowed ∧
        e = .operatorNotSupported field key allowed := by
  cases hallowed : g.allowed m field with
  | none => simp [ModelGraph.checkOperator, hallowed]
  | some allowed => by_cases hkey : key ∈ allowed <;>
      simp [ModelGraph.checkOperator, hallowed, hkey, eq_comm]

/-- The field is checked before the key below it. -/
theorem checkEntry_eq_error_iff {m : M} {field key : String} {e : Fault} :
    g.checkEntry m field key = .error e ↔
      field ∉ g.fields m ∧ e = .fieldNotSupported field (g.name m) (g.fields m) ∨
        field ∈ g.fields m ∧ ∃ allowed, g.allowed m field = some allowed ∧ key ∉ allowed ∧
          e = .operatorNotSupported field key allowed := by
  have hok : g.checkField m field = .ok () ↔ field ∈ g.fields m := by
    simp [ModelGraph.checkField, ModelGraph.isFilterable]
  rw [ModelGraph.checkEntry, except_bind_eq_error_iff, checkField_eq_error_iff]
  simp only [checkOperator_eq_error_iff, ← hok]
  constructor
  · rintro (h | ⟨_, h⟩)
    · exact .inl h
    · exact .inr h
  · rintro (h | h)
    · exact .inl h
    · exact .inr ⟨(), h⟩

variable (r g dialect)

/-- The first of some entries is gone through on its own. -/
theorem outcome_gatherEach_cons (m : M) (field : String) (x : String × Filter)
    (rest : List (String × Filter)) :
    (r.gatherEach g dialect m field (x :: rest)).outcome =
      ((r.gatherEach g dialect m field [x]).andThen
        (r.gatherEach g dialect m field rest)).outcome := by
  obtain ⟨key, f⟩ := x
  rw [gatherEach, gatherEach, gatherEach]
  simp only [Gathered.outcome_andThen, bind_assoc]
  rfl

/-- Entries under a field are accepted one by one. -/
theorem acceptsEach_cons_iff {m : M} {field : String} {x : String × Filter}
    {rest : List (String × Filter)} : r.AcceptsEach g dialect m field (x :: rest) ↔
      r.AcceptsEach g dialect m field [x] ∧ r.AcceptsEach g dialect m field rest := by
  obtain ⟨key, f⟩ := x
  simp only [AcceptsEach, and_true, and_assoc]

/-- The walk over one entry fails exactly with what is wrong with it, where this is so of the
filter below. -/
theorem outcome_gatherEach_singleton_eq_error_iff {m : M} {field key : String} {f : Filter}
    {e : Fault}
    (hf : ∀ m, (r.gather g dialect m key f).outcome = .error e ↔ r.Violation g dialect m key f e) :
    (r.gatherEach g dialect m field [(key, f)]).outcome = .error e ↔
      r.EntryViolation g dialect m field key f e := by
  rw [gatherEach]
  simp only [gatherEach, Gathered.outcome_andThen_eq_error_iff, Gathered.outcome_check,
    ModelGraph.checkEntry_eq_ok_iff, checkEntry_eq_error_iff]
  constructor
  · rintro ((⟨hfield, rfl⟩ | ⟨hfield, allowed, hallowed, hkey, rfl⟩) | ⟨hpermits, h | ⟨_, h⟩⟩)
    · exact .unknownField hfield
    · exact .restricted hfield hallowed hkey
    · cases hlookup : r.registry.lookup key with
      | some o =>
          simp only [hlookup, Gathered.outcome_one_eq_error_iff] at h
          obtain ⟨hargs, rfl⟩ | ⟨vs, hargs, h⟩ := place_eq_error_iff.mp h
          · obtain ⟨entries, rfl⟩ := exists_group_of_arguments? hargs
            rw [Registry.symbol_of_lookup hlookup]
            exact .nested hpermits (mem_symbols_of_lookup hlookup)
          · exact .refused hpermits hlookup hargs h
      | none =>
          simp only [hlookup] at h
          cases hrelation : g.relation m field with
          | none =>
              simp only [hrelation] at h
              cases h
              exact .noRelation hpermits (lookup_eq_none_iff.mp hlookup) hrelation
          | some target =>
              simp only [hrelation] at h
              exact .related hpermits (lookup_eq_none_iff.mp hlookup) hrelation ((hf _).mp h)
    · cases h
  · intro h
    cases h with
    | unknownField hfield => exact .inl (.inl ⟨hfield, rfl⟩)
    | restricted hfield hallowed hkey => exact .inl (.inr ⟨hfield, _, hallowed, hkey, rfl⟩)
    | noRelation hpermits hkey hrelation =>
        refine .inr ⟨hpermits, .inl ?_⟩
        rw [lookup_eq_none_iff.mpr hkey]
        simp only [hrelation]
        rfl
    | related hpermits hkey hrelation h =>
        refine .inr ⟨hpermits, .inl ?_⟩
        rw [lookup_eq_none_iff.mpr hkey]
        simp only [hrelation]
        exact (hf _).mpr h
    | nested hpermits hkey =>
        refine .inr ⟨hpermits, .inl ?_⟩
        obtain ⟨o, hlookup⟩ := exists_lookup_of_mem_symbols hkey
        simp only [hlookup]
        refine Gathered.outcome_one_eq_error_iff.mpr (place_eq_error_iff.mpr (.inl ⟨rfl, ?_⟩))
        rw [Registry.symbol_of_lookup hlookup]
    | refused hpermits hkey hargs h =>
        refine .inr ⟨hpermits, .inl ?_⟩
        simp only [hkey]
        exact Gathered.outcome_one_eq_error_iff.mpr (place_eq_error_iff.mpr (.inr ⟨_, hargs, h⟩))

mutual

/-- The walk over a filter fails exactly with the first thing that is wrong with it. -/
theorem outcome_gather_eq_error_iff (m : M) (field : String) (e : Fault) : (f : Filter) →
    ((r.gather g dialect m field f).outcome = .error e ↔ r.Violation g dialect m field f e)
  | .leaf v => by
      rw [gather, Gathered.outcome_check, Except.error.injEq]
      constructor
      · rintro rfl
        exact .leaf
      · rintro ⟨⟩
        rfl
  | .group entries => by
      have h := outcome_gatherEach_eq_error_iff m field e entries
      rw [gather]
      split
      · next hempty =>
          obtain rfl := List.isEmpty_iff.mp hempty
          rw [Gathered.outcome_check, Except.error.injEq]
          constructor
          · rintro rfl
            exact .empty
          · intro h
            cases h with
            | empty => rfl
            | entry hentries => simp at hentries
      · next hempty =>
          rw [h]
          constructor
          · rintro ⟨before, key, f, after, hentries, hbefore, h⟩
            exact .entry hentries hbefore h
          · intro h
            cases h with
            | empty => exact absurd rfl hempty
            | entry hentries hbefore h => exact ⟨_, _, _, _, hentries, hbefore, h⟩

/-- The walk over entries fails exactly with what is wrong with one of them, behind others that
are accepted. -/
theorem outcome_gatherEach_eq_error_iff (m : M) (field : String) (e : Fault) :
    (entries : List (String × Filter)) →
    ((r.gatherEach g dialect m field entries).outcome = .error e ↔ ∃ before key f after,
      entries = before ++ (key, f) :: after ∧ r.AcceptsEach g dialect m field before ∧
        r.EntryViolation g dialect m field key f e)
  | [] => by simp [gatherEach]
  | (key, f) :: rest => by
      have hrest := outcome_gatherEach_eq_error_iff m field e rest
      have hf m := outcome_gather_eq_error_iff m key e f
      rw [outcome_gatherEach_cons, Gathered.outcome_andThen_eq_error_iff,
        outcome_gatherEach_singleton_eq_error_iff r g dialect hf, outcome_gatherEach_eq_ok_iff,
        hrest]
      constructor
      · rintro (h | ⟨hfirst, before, key', f', after, rfl, hbefore, h⟩)
        · exact ⟨[], key, f, rest, rfl, trivial, h⟩
        · exact ⟨(key, f) :: before, key', f', after, rfl,
            (acceptsEach_cons_iff r g dialect).mpr ⟨hfirst, hbefore⟩, h⟩
      · rintro ⟨before, key', f', after, hentries, hbefore, h⟩
        cases before with
        | nil =>
            cases hentries
            exact .inl h
        | cons x before =>
            cases hentries
            obtain ⟨hfirst, hbefore⟩ := (acceptsEach_cons_iff r g dialect).mp hbefore
            exact .inr ⟨hfirst, before, key', f', after, rfl, hbefore, h⟩

end

/-! ## The first fault -/

variable {r g dialect}

/-- The fault of a filter.  Either no operator is within reach, or the filter stands under an
operator, or it is the first thing that is wrong with the filter. -/
def FirstFault (r : Resolver) (g : ModelGraph M) (dialect : Dialect) (m : M) (field : String)
    (f : Filter) (e : Fault) : Prop :=
  r.OutOfReach f ∧ e = .noOperator r.registry.symbols ∨
    ¬ r.OutOfReach f ∧
      (field ∈ r.registry.symbols ∧ e = .fieldNotSupported field (g.name m) (g.fields m) ∨
        field ∉ r.registry.symbols ∧ r.Violation g dialect m field f e)

/-- Resolving fails with the first fault. -/
theorem outcome_resolve_eq_error_iff {m : M} {field : String} {f : Filter} {e : Fault} :
    (r.resolve g m dialect field f).outcome = .error e ↔ r.FirstFault g dialect m field f e := by
  cases hvalid : r.validate f with
  | error x =>
      obtain ⟨hreach, rfl⟩ := validate_eq_error_iff.mp hvalid
      rw [outcome_resolve_of_invalid r g m dialect field hvalid, Except.error.injEq]
      constructor
      · rintro rfl
        exact .inl ⟨hreach, rfl⟩
      · rintro (⟨-, rfl⟩ | ⟨hreach', -⟩)
        · rfl
        · exact absurd hreach hreach'
  | ok u =>
      have hreach : ¬ r.OutOfReach f := fun h =>
        nomatch hvalid.symm.trans (validate_eq_error_iff.mpr ⟨h, rfl⟩)
      simp only [FirstFault, hreach, false_and, false_or, not_false_eq_true, true_and]
      cases hfield : r.registry.lookup field with
      | some o =>
          have hmem := mem_symbols_of_lookup hfield
          rw [outcome_resolve_operator r g m dialect hfield hvalid,
            Registry.symbol_of_lookup hfield]
          simp [hmem, ModelGraph.noField, eq_comm]
      | none =>
          have hmem := lookup_eq_none_iff.mp hfield
          rw [resolve_eq r g m dialect hfield hvalid, ← outcome_gather_eq_error_iff]
          simp only [hmem, false_and, false_or, not_false_eq_true, true_and]
          cases (r.gather g dialect m field f).outcome <;> simp [Except.map]

end Resolver

end Sift
