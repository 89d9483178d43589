import Sift.Proofs.Catalog.Relations
import Sift.Proofs.Engine.Filter
import Sift.Proofs.Meaning.Database
import Sift.Proofs.Resolver.Outline

/-!
# Sift.Proofs.Meaning.Filter

What filters mean, said over the declarations of models and without a query.  A row
satisfies what stands under a field if the condition of every operator there is true of
it, and if one related row satisfies everything else there.

Main statement: `allHold_filter_iff` — a row satisfies the clauses that an engine makes of
a filter exactly if it satisfies the filter.
-/

namespace Sift

/-! ## Reading filters -/

namespace Filter

/-- Every operator among the entries under a field makes a condition that is true of the
row. -/
def OperatorsHold (db : Database) (r : Registry) (dialect : Dialect) (field : String)
    (entries : List (String × Filter)) (row : db.Row) : Prop :=
  ∀ e ∈ entries, ∀ o, r.lookup e.1 = some o → ∃ arguments c,
    e.2.arguments? = some arguments ∧ o.build field arguments dialect = .ok c ∧
    db.Satisfies row c

mutual

/-- A row of a model satisfies what stands under a field. -/
def Selects (db : Database) (r : Registry) (dialect : Dialect) (ds : List Declaration)
    (owner : Declaration) (field : String) : Filter → db.Row → Prop
  | .leaf _, _ => False
  | .group entries, row =>
    OperatorsHold db r dialect field entries row ∧
    ((∃ e ∈ entries, e.1 ∉ r.symbols) → ∃ relation related,
      Keyed.get? owner.relations field = some relation ∧
      ds.find? (·.name = relation.model) = some related ∧
      ∃ other ∈ db.rows related.tableName, relation.Links db owner related row other ∧
        SelectsRelated db r dialect ds related entries other)

/-- A row of a related model satisfies all of the entries that are no operators. -/
def SelectsRelated (db : Database) (r : Registry) (dialect : Dialect) (ds : List Declaration)
    (related : Declaration) : List (String × Filter) → db.Row → Prop
  | [], _ => True
  | (key, f) :: rest, row =>
    (key ∉ r.symbols → Selects db r dialect ds related key f row) ∧
    SelectsRelated db r dialect ds related rest row

end

/-- A row of a model satisfies a filter: what stands under each of its keys. -/
def SelectsAll (db : Database) (r : Registry) (dialect : Dialect) (ds : List Declaration)
    (owner : Declaration) (f : Filter) (row : db.Row) : Prop :=
  match f with
  | .leaf _ => False
  | .group entries => ∀ e ∈ entries, Selects db r dialect ds owner e.1 e.2 row

theorem operatorsHold_cons {db : Database} {r : Registry} {dialect : Dialect}
    {field key : String} {f : Filter} {rest : List (String × Filter)} {row : db.Row} :
    OperatorsHold db r dialect field ((key, f) :: rest) row ↔
      (∀ o, r.lookup key = some o → ∃ arguments c, f.arguments? = some arguments ∧
        o.build field arguments dialect = .ok c ∧ db.Satisfies row c) ∧
      OperatorsHold db r dialect field rest row := by
  simp [OperatorsHold]

end Filter

/-! ## Clauses of outlines -/

namespace Resolver

open Plan (clausesOf)
open Clause (AllHold)

section Levels

variable {M : Type} {r : Resolver} {g : ModelGraph M} {dialect : Dialect} {m : M}
  {field : String} {db : Database} {row : db.Row}

/-- The clause of an operator holds if the condition that it makes is true of the row. -/
theorem allHold_operatorEntry {e : Registry.Entry} {f : Filter} (h : Takes dialect field e f)
    (frame : Frame) :
    AllHold db (clausesOf g frame (operatorEntry dialect field e f)) row ↔
      ∃ arguments c, f.arguments? = some arguments ∧
        e.build field arguments dialect = .ok c ∧ db.Satisfies row c := by
  obtain ⟨arguments, c, hargs, hbuild⟩ := h
  rw [operatorEntry_of_build hargs hbuild]
  simp [Plan.Entry.clauses, Clause.AllHold, Clause.Holds, hargs, hbuild]

/-- The clauses of the operators under a field hold where their conditions are true. -/
theorem allHold_operatorEntries {entries : List (String × Filter)}
    (h : r.AcceptsEach g dialect m field entries) (frame : Frame) :
    AllHold db (clausesOf g frame (r.operatorEntries dialect field entries)) row ↔
      Filter.OperatorsHold db r.registry dialect field entries row := by
  induction entries with
  | nil => simp [operatorEntries, Filter.OperatorsHold]
  | cons e rest ih =>
      obtain ⟨key, f⟩ := e
      rw [AcceptsEach] at h
      rw [operatorEntries, Plan.clausesOf_append, Clause.allHold_append, ih h.2.2,
        Filter.operatorsHold_cons]
      cases hkey : r.registry.lookup key with
      | none => simp
      | some o =>
          have htakes := h.2.1
          rw [hkey] at htakes
          simp [allHold_operatorEntry htakes]

/-- The clauses of a level hold where the conditions of its operators are true, and where
its scope, if there is any key for it, has a row. -/
theorem allHold_level {entries : List (String × Filter)}
    (h : r.AcceptsEach g dialect m field entries) (frame : Frame) (scope : Plan.Entry M) :
    AllHold db (clausesOf g frame (r.level dialect field scope entries)) row ↔
      Filter.OperatorsHold db r.registry dialect field entries row ∧
      ((∃ e ∈ entries, e.1 ∉ r.registry.symbols) → AllHold db (scope.clauses g frame) row) := by
  induction entries with
  | nil => simp [level, Filter.OperatorsHold]
  | cons e rest ih =>
      obtain ⟨key, f⟩ := e
      rw [AcceptsEach] at h
      rw [level, Filter.operatorsHold_cons]
      cases hkey : r.registry.lookup key with
      | some o =>
          have htakes := h.2.1
          rw [hkey] at htakes
          have hmem := mem_symbols_of_lookup hkey
          simp [Clause.allHold_append, allHold_operatorEntry htakes, ih h.2.2, hmem, and_assoc]
      | none =>
          have hnot := lookup_eq_none_iff.mp hkey
          have hrest : AllHold db (clausesOf g frame (r.operatorEntries dialect field rest)) row ↔
              Filter.OperatorsHold db r.registry dialect field rest row :=
            allHold_operatorEntries h.2.2 frame
          simp [Clause.allHold_append, hrest, hnot, and_comm]

end Levels

/-! ## Outlines mean what filters mean -/

section Outlines

variable {ds : List Declaration} {c : Catalog} {r : Resolver} {dialect : Dialect} {db : Database}

mutual

/-- The outline of what stands under a field holds of the rows that it selects. -/
theorem allHold_outline (hc : (Catalog.build ds).outcome = .ok c) (m : c.Model)
    (field : String) (frame : Frame) : (f : Filter) → r.Accepts c.graph dialect m field f →
    (row : db.Row) →
    (AllHold db (clausesOf c.graph frame (r.outline c.graph dialect m field f)) row ↔
      f.Selects db r.registry dialect c.declarations (c.declaration m) field row)
  | .leaf v, h, row => by simp [Accepts] at h
  | .group entries, h, row => by
      rw [Accepts] at h
      rw [outline, allHold_level h.2.2, Filter.Selects]
      refine and_congr_right fun _ => forall_congr' fun hother => ?_
      obtain ⟨related, join, hrel⟩ := exists_relation_of_acceptsEach h.2.2 hother
      obtain ⟨relation, hget, hfind, rfl⟩ := (Catalog.relation_eq_some_iff hc).mp hrel
      have hrelated := Catalog.find?_declarations hfind
      have hinside := fun other => allHold_outlineInside hc m field
        (frame.related (relation.join (c.declaration m) (c.declaration related)))
        hrel entries h.2.2 other
      simp [Plan.Entry.clauses, hrel, Clause.allHold_cons, Clause.Holds, hinside, hget,
        hrelated, RelationDeclaration.relatedTable_join, RelationDeclaration.ties_join_iff]

/-- What the entries under a field ask of the related model holds of the rows of that model
that they select. -/
theorem allHold_outlineInside (hc : (Catalog.build ds).outcome = .ok c) (m : c.Model)
    (field : String) (frame : Frame) {related : c.Model} {join : Join}
    (hrel : c.graph.relation m field = some (related, join)) :
    (entries : List (String × Filter)) → r.AcceptsEach c.graph dialect m field entries →
    (row : db.Row) →
    (AllHold db (clausesOf c.graph frame
        (r.outlineInside c.graph dialect m field entries)) row ↔
      Filter.SelectsRelated db r.registry dialect c.declarations (c.declaration related)
        entries row)
  | [], _, row => by simp [outlineInside, Filter.SelectsRelated]
  | (key, f) :: rest, h, row => by
      rw [AcceptsEach] at h
      have hrest := allHold_outlineInside hc m field frame hrel rest h.2.2 row
      rw [outlineInside, Plan.clausesOf_append, Clause.allHold_append, hrest,
        Filter.SelectsRelated]
      refine and_congr_left fun _ => ?_
      cases hkey : r.registry.lookup key with
      | some o =>
          have hmem := mem_symbols_of_lookup hkey
          simp [hmem]
      | none =>
          have hf := h.2.1
          rw [hkey] at hf
          obtain ⟨target, join', htarget, haccepts⟩ := hf
          obtain rfl : target = related := by simp_all
          have hf := allHold_outline hc target key frame f haccepts row
          simp [hrel, hf, lookup_eq_none_iff.mp hkey]

end

end Outlines

end Resolver

/-! ## Queries mean what filters mean -/

/-- A query that an engine makes of a filter is over the table of a declared model, and a
row satisfies its clauses exactly if it satisfies the filter.  The groups of the filter have
distinct keys, as they do however the filter is put together (`distinct_ofPairs`) or read
(`distinct_ofJson_of_read`). -/
theorem Engine.allHold_filter_iff {ds : List Declaration} {e : Engine} {name : String}
    {f : Filter} {s : Scope} (hc : (Catalog.build ds).outcome = .ok e.catalog)
    (hdistinct : f.Distinct) (hs : (e.filter name f).outcome = .ok s) :
    ∃ owner, e.catalog.declarations.find? (·.name = name) = some owner ∧
      s.frame.table = owner.tableName ∧
      ∀ (db : Database) (row : db.Row), Clause.AllHold db s.clauses row ↔
        f.SelectsAll db e.resolver.registry e.dialect e.catalog.declarations owner row := by
  obtain ⟨m, entries, hfind, rfl, haccepts, rfl⟩ := Engine.filter_ok hs
  refine ⟨e.catalog.declaration m, Catalog.find?_declarations hfind, rfl, ?_⟩
  intro db row
  rw [Filter.Distinct] at hdistinct
  rw [Engine.clauses, Clause.allHold_flatMap, Filter.SelectsAll, Resolver.plansOf]
  simp only [List.forall_mem_map]
  refine forall_congr' fun x => forall_congr' fun hx => ?_
  have hx' := Filter.distinctEach_iff.mp hdistinct.2 x hx
  rw [Resolver.outline_of_placements (haccepts x hx) hx']
  exact Resolver.allHold_outline hc m x.1 _ x.2 (haccepts x hx) row

/-- Authors of some one book that has both the title and the year. -/
theorem Engine.allHold_library_iff :
    let f : Filter := .group [("books", .group
      [("title", .group [("$eq", .leaf (.text "Emma"))]),
       ("year", .group [("$lt", .leaf (.int 1820))])])]
    ∃ s owner, (library.filter "Author" f).outcome = .ok s ∧
      library.catalog.declarations.find? (·.name = "Author") = some owner ∧
      s.frame.table = owner.tableName ∧
      ∀ (db : Database) (row : db.Row), Clause.AllHold db s.clauses row ↔
        f.SelectsAll db .defaults .postgres library.catalog.declarations owner row := by
  intro f
  have hdistinct : f.Distinct := by
    simp [f, Filter.Distinct, Filter.DistinctEach, Keyed.keys]
  have hs : (library.filter "Author" f).outcome = .ok _ := rfl
  obtain ⟨owner, howner⟩ := allHold_filter_iff Catalog.build_library hdistinct hs
  exact ⟨_, owner, hs, howner⟩

end Sift
