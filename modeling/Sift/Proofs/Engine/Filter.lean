import Sift.Engine
import Sift.Proofs.Catalog.Relations
import Sift.Proofs.Resolver.Batch

/-!
# Sift.Proofs.Engine.Filter

The query that an engine makes of a filter, and a small engine to read the statements
about engines by.

Main statements:

* `filter_eq_ok_iff` — the query is what applying the filter leaves of the query for all rows
  of a declared model;
* `filter_ok` — its clauses are those of the plans of the filter's keys.
-/

namespace Sift

namespace Engine

/-- The clauses that the keys of a filter ask for, in a query over a model. -/
def clauses (e : Engine) (m : e.catalog.Model) (entries : List (String × Filter)) :
    List Clause :=
  (e.resolver.plansOf e.catalog.graph e.dialect m entries).flatMap fun p =>
    Plan.clausesOf e.catalog.graph (.root e.dialect (e.catalog.declaration m).tableName) p.entries

/-- A query over a model asks for all rows of its table. -/
theorem query_eq_ok_iff {e : Engine} {name : String} {s : Scope} :
    e.query name = .ok s ↔ ∃ m, e.catalog.find? name = some m ∧
      s = .root e.dialect (e.catalog.declaration m).tableName := by
  unfold query model
  cases e.catalog.find? name <;> simp [bind, Except.bind, pure, Except.pure, eq_comm]

/-- The query of a filter is what applying the filter leaves of the query for all rows. -/
theorem filter_eq_ok_iff {e : Engine} {name : String} {f : Filter} {s : Scope} :
    (e.filter name f).outcome = .ok s ↔ ∃ m, e.catalog.find? name = some m ∧
      (e.resolver.applyAll e.catalog.graph m
        (.root e.dialect (e.catalog.declaration m).tableName) f).outcome = .ok () ∧
      (e.resolver.applyAll e.catalog.graph m
        (.root e.dialect (e.catalog.declaration m).tableName) f).scope = s := by
  rw [filter, Reported.outcome_bind_eq_ok_iff]
  simp only [Reported.outcome_ofExcept, query_eq_ok_iff]
  constructor
  · rintro ⟨t, ⟨m, hm, rfl⟩, h⟩
    have hmodel : e.model name = .ok m := by rw [model, hm]
    simp only [applyAll, hmodel, Applied.ofResolver] at h
    refine ⟨m, hm, ?_⟩
    generalize e.resolver.applyAll e.catalog.graph m _ f = a at h ⊢
    obtain ⟨events, outcome, t⟩ := a
    cases outcome with
    | error x => cases h
    | ok u => exact ⟨rfl, Except.ok.inj h⟩
  · rintro ⟨m, hm, hok, rfl⟩
    have hmodel : e.model name = .ok m := by rw [model, hm]
    refine ⟨_, ⟨m, hm, rfl⟩, ?_⟩
    simp only [applyAll, hmodel, Applied.ofResolver, hok]
    rfl

/-- What a query holds that was made of a filter. -/
theorem filter_ok {e : Engine} {name : String} {f : Filter} {s : Scope}
    (h : (e.filter name f).outcome = .ok s) :
    ∃ m entries, e.catalog.find? name = some m ∧ f = .group entries ∧
      (∀ x ∈ entries, e.resolver.Accepts e.catalog.graph e.dialect m x.1 x.2) ∧
      s = ⟨.root e.dialect (e.catalog.declaration m).tableName, e.clauses m entries⟩ := by
  obtain ⟨m, hfind, hok, rfl⟩ := filter_eq_ok_iff.mp h
  obtain ⟨entries, rfl, haccepts, hscope⟩ := Resolver.applyAll_of_ok hok
  exact ⟨m, entries, hfind, rfl, haccepts, hscope⟩

end Engine

/-! ## A small engine -/

/-- Authors, who may be asked for by the exact name only, and the books they wrote. -/
def Catalog.library : List Declaration :=
  [⟨"Author", some "authors", "id", ["name", "books"], [("name", ["$eq"])],
      [("books", ⟨"books", "Book", .oneToMany, some "author_id", none, none, none, none⟩)]⟩,
   ⟨"Book", some "books", "id", ["title", "year", "author"], [],
      [("author", ⟨"author", "Author", .manyToOne, some "author_id", none, none, none, none⟩)]⟩]

/-- The declarations of authors and books make a catalog. -/
theorem Catalog.build_library : (build library).outcome = .ok (ofChecked library) := by
  refine outcome_build_eq_ok_iff.mpr ⟨by decide, ?_, rfl⟩
  simp only [Declaration.problems_eq_nil_iff]
  decide

/-- An engine for authors and books, with every built-in operator. -/
def Engine.library : Engine := ⟨⟨.defaults, false⟩, .ofChecked Catalog.library, .postgres⟩

end Sift
