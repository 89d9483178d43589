import Sift.Proofs.Engine.Filter
import Sift.Proofs.Resolver.Violation

/-!
# Sift.Proofs.Resolver.Truthful

What a fault says.  A fault about a field or about a key tells what is so of a model that the
filter leads to, and a fault about an operator names one that stands in the filter.

Main statements:

* `truthful_of_violation` — the first thing that is wrong with a filter is told truthfully;
* `first_and_truthful` — resolving fails with the first fault, which says what is so.
-/

namespace Sift

namespace Resolver

variable {M : Type}

section Visits

variable (r : Resolver) (g : ModelGraph M) (m : M) (field : String) (f : Filter)

/-- A filter under a field of a model leads to filters under fields of other models, along
relations and permitted keys that are no operators. -/
inductive Visits : M → String → Filter → Prop
  | start : Visits m field f
  | related {n next : M} {join : Join} {name key : String} {h : Filter}
      {entries : List (String × Filter)} (hvisits : Visits n name (.group entries))
      (hmem : (key, h) ∈ entries) (hpermits : g.Permits n name key)
      (hkey : key ∉ r.registry.symbols) (hrelation : g.relation n name = some (next, join)) :
      Visits next key h

/-- A key that is led to is the symbol of an operator. -/
def NamesOperator (symbol : String) : Prop :=
  symbol ∈ r.registry.symbols ∧ ∃ n name entries,
    r.Visits g m field f n name (.group entries) ∧ symbol ∈ Keyed.keys entries

/-- What a fault says of a filter under a field of a model is so. -/
def Truthful (dialect : Dialect) : Fault → Prop
  | .noOperator known => known = r.registry.symbols
  | .fieldNotSupported name model fields =>
    name = field ∧ name ∈ r.registry.symbols ∧ model = g.name m ∧ fields = g.fields m ∨
    ∃ n entries, r.Visits g m field f n name (.group entries) ∧
      model = g.name n ∧ fields = g.fields n ∧
      (name ∉ fields ∨
        g.relation n name = none ∧ ∃ key ∈ Keyed.keys entries, key ∉ r.registry.symbols)
  | .operatorNotSupported name key allowed =>
    ∃ n entries, r.Visits g m field f n name (.group entries) ∧ key ∈ Keyed.keys entries ∧
      g.allowed n name = some allowed ∧ key ∉ allowed
  | .invalidArguments symbol _ => r.NamesOperator g m field f symbol
  | .unsupportedDialect name symbol =>
    name = dialect.name ∧ r.NamesOperator g m field f symbol
  | .duplicateOperator _ | .unknownOperator _ => False

end Visits

variable {r : Resolver} {g : ModelGraph M} {dialect : Dialect} {m : M} {field : String}
  {f : Filter}

/-- What a built-in operator has against its arguments or the dialect is told truthfully. -/
theorem truthful_of_build_eq_error {o : Registry.Entry} {column : String} {vs : List Value}
    {e : Fault} (ho : o.BuiltIn) (hnames : r.NamesOperator g m field f o.symbol)
    (h : o.build column vs dialect = .error e) : r.Truthful g m field f dialect e := by
  obtain ⟨op, hop⟩ := ho
  rw [hop] at h
  obtain ⟨fault, rfl⟩ | rfl := Operator.eq_of_build_eq_error h
  · exact hnames
  · exact ⟨rfl, hnames⟩

mutual

/-- The first thing that is wrong with a filter that is led to is told truthfully. -/
theorem truthful_of_violation (hbuiltIn : r.registry.BuiltIn) {n : M} {name : String}
    {h : Filter} {e : Fault} (hvisits : r.Visits g m field f n name h) :
    r.Violation g dialect n name h e → r.Truthful g m field f dialect e
  | .leaf => rfl
  | .empty => rfl
  | .entry hentries _ h => by
      subst hentries
      exact truthful_of_entryViolation hbuiltIn hvisits
        (List.mem_append_right _ List.mem_cons_self) h

/-- So is what is said of an entry under a field. -/
theorem truthful_of_entryViolation (hbuiltIn : r.registry.BuiltIn) {n : M}
    {name key : String} {h : Filter} {e : Fault} {entries : List (String × Filter)}
    (hvisits : r.Visits g m field f n name (.group entries)) (hmem : (key, h) ∈ entries) :
    r.EntryViolation g dialect n name key h e → r.Truthful g m field f dialect e
  | .unknownField hfield => .inr ⟨n, entries, hvisits, rfl, rfl, .inl hfield⟩
  | .restricted _ hallowed hkey =>
      ⟨n, entries, hvisits, List.mem_map_of_mem hmem, hallowed, hkey⟩
  | .noRelation _ hkey hrelation =>
      .inr ⟨n, entries, hvisits, rfl, rfl, .inr ⟨hrelation, key, List.mem_map_of_mem hmem, hkey⟩⟩
  | .related hpermits hkey hrelation h =>
      truthful_of_violation hbuiltIn (.related hvisits hmem hpermits hkey hrelation) h
  | .nested _ hkey => ⟨hkey, n, name, entries, hvisits, List.mem_map_of_mem hmem⟩
  | .refused _ hlookup _ h => by
      refine truthful_of_build_eq_error (hbuiltIn.of_lookup hlookup) ?_ h
      rw [Registry.symbol_of_lookup hlookup]
      exact ⟨mem_symbols_of_lookup hlookup, n, name, entries, hvisits,
        List.mem_map_of_mem hmem⟩

end

/-- Resolving fails exactly with the first fault of the filter, and what the fault says of the
models and the filter is so. -/
theorem first_and_truthful (r : Resolver) (g : ModelGraph M) (m : M) (dialect : Dialect)
    (field : String) (f : Filter) (hbuiltIn : r.registry.BuiltIn) (e : Fault) :
    ((r.resolve g m dialect field f).outcome = .error e ↔ r.FirstFault g dialect m field f e) ∧
      ((r.resolve g m dialect field f).outcome = .error e → r.Truthful g m field f dialect e) := by
  refine ⟨outcome_resolve_eq_error_iff, fun h => ?_⟩
  obtain ⟨-, rfl⟩ | ⟨-, ⟨hfield, rfl⟩ | ⟨-, hviolation⟩⟩ := outcome_resolve_eq_error_iff.mp h
  · rfl
  · exact .inl ⟨rfl, hfield, rfl, rfl⟩
  · exact truthful_of_violation hbuiltIn .start hviolation

/-- Authors are asked for by their names alone, in a filter on their books as well. -/
theorem first_and_truthful_library :
    let f := Filter.group [("author", .group [("name", .group [("$like", .leaf (.text "A%"))])])]
    let fault := Fault.operatorNotSupported "name" "$like" ["$eq"]
    (Engine.library.resolver.resolve Engine.library.catalog.graph (⟨0, Nat.zero_lt_two⟩ : Fin 2)
      .postgres "books" f).outcome = .error fault ∧
    Engine.library.resolver.FirstFault Engine.library.catalog.graph .postgres
      (⟨0, Nat.zero_lt_two⟩ : Fin 2) "books" f fault ∧
    Engine.library.resolver.Truthful Engine.library.catalog.graph (⟨0, Nat.zero_lt_two⟩ : Fin 2)
      "books" f .postgres fault := by
  intro f fault
  have h := first_and_truthful Engine.library.resolver Engine.library.catalog.graph
    (⟨0, Nat.zero_lt_two⟩ : Fin 2) .postgres "books" f Registry.builtIn_defaults fault
  have hfault : (Engine.library.resolver.resolve Engine.library.catalog.graph
    (⟨0, Nat.zero_lt_two⟩ : Fin 2) .postgres "books" f).outcome = .error fault := rfl
  exact ⟨hfault, h.1.mp hfault, h.2 hfault⟩

end Resolver

end Sift
