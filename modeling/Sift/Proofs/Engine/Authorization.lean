import Sift.Proofs.Engine.Filter
import Sift.Proofs.Meaning.Database
import Sift.Proofs.Operator.Build

/-!
# Sift.Proofs.Engine.Authorization

What an engine lets through.  Wherever a condition stands in the query of a filter, the
clauses above it follow declared relations that are not restricted to any operators, and
the condition was made by an operator that its field allows.

Main statements:

* `leads_of_occurs` — the clauses above a condition of a vetted plan follow declared
  relations to a model that permits the condition;
* `authorized_of_occurs` — so every condition in the query of a filter is authorized;
* `not_leads_misnamed` — but a clause may carry a name that no relation stands under.
-/

namespace Sift

/-! ## Conditions among clauses -/

/-- A condition stands among clauses below some clauses about related rows, the outermost
one first. -/
def Clause.Occurs (c : Condition) : List (Join × Frame) → List Clause → Prop
  | [], cs => .condition c ∈ cs
  | (join, frame) :: path, cs => ∃ inner, .related join frame inner ∈ cs ∧ Occurs c path inner

/-- A condition among the clauses of several things stands among those of one of them. -/
theorem Clause.occurs_flatMap {α : Type} {c : Condition} {path : List (Join × Frame)}
    {clauses : α → List Clause} {as : List α} (h : Occurs c path (as.flatMap clauses)) :
    ∃ a ∈ as, Occurs c path (clauses a) := by
  cases path with
  | nil => exact List.mem_flatMap.mp h
  | cons step path =>
      obtain ⟨inner, hmem, hinner⟩ := h
      obtain ⟨a, ha, hclause⟩ := List.mem_flatMap.mp hmem
      exact ⟨a, ha, inner, hclause, hinner⟩

/-! ## Chains of relations -/

namespace Catalog

/-- A clause about related rows follows a relation that a model declares, to another
model.  The relation is a field of the model that is not restricted to any operators, and
the rows are those of the other model's table. -/
structure Crosses (c : Catalog) (m : c.Model) (name : String) (join : Join) (frame : Frame)
    (next : c.Model) : Prop where
  field : name ∈ (c.declaration m).fields
  unrestricted : Keyed.get? (c.declaration m).operators name = none
  declared : ∃ relation, Keyed.get? (c.declaration m).relations name = some relation ∧
    c.find? relation.model = some next ∧
    join = relation.join (c.declaration m) (c.declaration next)
  table : frame.table = (c.declaration next).tableName

/-- Clauses about related rows follow relations of the given names, one from each model to
the next. -/
def Leads (c : Catalog) : c.Model → List String → List (Join × Frame) → c.Model → Prop
  | m, [], [], n => m = n
  | m, name :: names, (join, frame) :: path, n =>
    ∃ next, c.Crosses m name join frame next ∧ c.Leads next names path n
  | _, _, _, _ => False

/-- Where relations stand under their own names, clauses follow the relations that they are
named after. -/
theorem names_of_leads {c : Catalog} (hnamed : ∀ d ∈ c.declarations, d.Named) :
    {m : c.Model} → {names : List String} → {path : List (Join × Frame)} → {n : c.Model} →
    c.Leads m names path n → names = path.map (·.1.name)
  | m, [], [], n, _ => rfl
  | m, name :: names, (join, frame) :: path, n, h => by
      obtain ⟨next, hcrosses, hleads⟩ := h
      obtain ⟨relation, hget, -, rfl⟩ := hcrosses.declared
      have hname : relation.name = name :=
        hnamed _ (List.getElem_mem m.isLt) _ (Keyed.mem_of_get? hget)
      rw [names_of_leads hnamed hleads, List.map_cons, RelationDeclaration.name_join, hname]

end Catalog

/-! ## Vetted plans -/

section Vetted

variable {ds : List Declaration} {catalog : Catalog} {r : Resolver} {dialect : Dialect}

/-- A field that permits some key other than an operator is not restricted at all. -/
theorem unrestricted_of_vettedRelation (hfits : catalog.checkOperators r.registry = .ok ())
    {m : catalog.Model} {name : String} (h : r.VettedRelation catalog.graph m name) :
    Keyed.get? (catalog.declaration m).operators name = none := by
  obtain ⟨key, hkey, -, hallowed⟩ := h
  cases hget : Keyed.get? (catalog.declaration m).operators name with
  | none => rfl
  | some allowed =>
      exact absurd (Catalog.mem_symbols_of_checkOperators hfits hget (hallowed allowed hget)) hkey

/-- The clauses above a condition of a vetted plan follow declared relations, to a model
that permits the condition. -/
theorem leads_of_occurs (hc : (Catalog.build ds).outcome = .ok catalog)
    (hfits : catalog.checkOperators r.registry = .ok ()) {c : Condition}
    {path : List (Join × Frame)} {m : catalog.Model} {frame : Frame}
    {es : List (Plan.Entry catalog.Model)} (hvetted : r.Vetted catalog.graph dialect m es)
    (hoccurs : Clause.Occurs c path (Plan.clausesOf catalog.graph frame es)) :
    ∃ names n, catalog.Leads m names path n ∧ r.VettedCondition catalog.graph dialect n c := by
  induction path generalizing m frame es with
  | nil =>
      obtain ⟨e, he, hclause⟩ := Plan.mem_clausesOf.mp hoccurs
      have hentry := Resolver.vetted_iff.mp hvetted e he
      cases e with
      | condition d =>
          obtain rfl : c = d := by simpa [Plan.Entry.clauses] using hclause
          rw [Resolver.VettedEntry] at hentry
          exact ⟨[], m, rfl, hentry⟩
      | related name owner inner =>
          rw [Plan.Entry.clauses] at hclause
          split at hclause <;> simp at hclause
  | cons step path ih =>
      obtain ⟨inner, hmem, hinner⟩ := hoccurs
      obtain ⟨e, he, hclause⟩ := Plan.mem_clausesOf.mp hmem
      have hentry := Resolver.vetted_iff.mp hvetted e he
      cases e with
      | condition d => simp [Plan.Entry.clauses] at hclause
      | related name owner entries =>
          rw [Resolver.VettedEntry] at hentry
          obtain ⟨rfl, hname, next, join, hrel, hentries⟩ := hentry
          simp only [Plan.Entry.clauses, hrel, List.mem_singleton, Clause.related.injEq] at hclause
          obtain ⟨hjoin, hframe, rfl⟩ := hclause
          obtain ⟨names, n, hleads, hcondition⟩ := ih hentries hinner
          obtain ⟨relation, hget, hfind, rfl⟩ := (Catalog.relation_eq_some_iff hc).mp hrel
          have htable : step.2.table = (catalog.declaration next).tableName := by
            rw [hframe]
            exact relation.relatedTable_join _ _
          have hunrestricted := unrestricted_of_vettedRelation hfits hname
          obtain ⟨key, -, hfield, -⟩ := hname
          exact ⟨name :: names, n, ⟨next, ⟨hfield, hunrestricted, ⟨relation, hget, hfind, hjoin⟩,
            htable⟩, hleads⟩, hcondition⟩

end Vetted

/-! ## Authorized queries -/

/-- A condition is what a registered operator makes of a field of a model, and if the field
is restricted, then the operator's symbol is among those it is restricted to. -/
def Engine.Allows (e : Engine) (m : e.catalog.Model) (c : Condition) : Prop :=
  c.column ∈ (e.catalog.declaration m).fields ∧
  ∃ symbol operator, e.resolver.registry.lookup symbol = some operator ∧
    (∃ arguments, operator.build c.column arguments e.dialect = .ok c) ∧
    ∀ allowed, Keyed.get? (e.catalog.declaration m).operators c.column = some allowed →
      symbol ∈ allowed

/-- Every condition in the query of a filter is authorized.  The clauses above it follow
declared, unrestricted relations from the model that is asked for, and the model that they
lead to allows the condition.  Where declarations keep relations under their own names, the
clauses carry the names of the relations that they follow. -/
theorem Engine.authorized_of_occurs {ds : List Declaration} {resolver : Resolver}
    {catalog : Catalog} {dialect : Dialect} {e : Engine}
    (hc : (Catalog.build ds).outcome = .ok catalog)
    (he : Engine.new resolver catalog dialect = .ok e) (hbuiltIn : resolver.registry.BuiltIn)
    {name : String} {f : Filter} {s : Scope} (hs : (e.filter name f).outcome = .ok s)
    {path : List (Join × Frame)} {c : Condition} (hoccurs : Clause.Occurs c path s.clauses) :
    ∃ m names n, e.catalog.find? name = some m ∧
      s.frame.table = (e.catalog.declaration m).tableName ∧
      e.catalog.Leads m names path n ∧
      ((∀ d ∈ e.catalog.declarations, d.Named) → names = path.map (·.1.name)) ∧
      e.Allows n c := by
  obtain ⟨_, hfits, hnew⟩ := except_bind_eq_ok_iff.mp he
  cases hnew
  obtain ⟨m, entries, hfind, rfl, haccepts, rfl⟩ := Engine.filter_ok hs
  obtain ⟨p, hp, hp'⟩ := Clause.occurs_flatMap hoccurs
  have hvetted := Resolver.vetted_of_mem_plansOf haccepts hp
  obtain ⟨names, n, hleads, hcondition⟩ := leads_of_occurs hc hfits hvetted hp'
  obtain ⟨field, symbol, operator, arguments, hlookup, hpermits, hbuild⟩ := hcondition
  obtain rfl := Registry.Entry.column_build (hbuiltIn.of_lookup hlookup) hbuild
  exact ⟨m, names, n, hfind, rfl, hleads, fun hnamed => Catalog.names_of_leads hnamed hleads,
    hpermits.1, symbol, operator, hlookup, ⟨arguments, hbuild⟩, hpermits.2⟩

/-- The name of the author of a book of an author: the relations are followed in a circle,
and the name may be asked for by equality only. -/
theorem Engine.authorized_library :
    let f : Filter := .group [("books", .group
      [("author", .group [("name", .group [("$eq", .leaf (.text "Austen"))])])])]
    let c : Condition := .compare "name" .eq (.text "Austen")
    let books : Join × Frame :=
      (.has "books" .oneToMany "books" "author_id" "id", ⟨.postgres, "books", some "r1", 1⟩)
    let author : Join × Frame :=
      (.belongsTo "author" "authors" "author_id" "id", ⟨.postgres, "authors", some "r2", 2⟩)
    ∃ s m n, (library.filter "Author" f).outcome = .ok s ∧
      Clause.Occurs c [books, author] s.clauses ∧
      library.catalog.find? "Author" = some m ∧
      s.frame.table = (library.catalog.declaration m).tableName ∧
      library.catalog.Leads m ["books", "author"] [books, author] n ∧
      library.Allows n c := by
  intro f c books author
  let s : Scope := ⟨.root .postgres "authors",
    [.related books.1 books.2 [.related author.1 author.2 [.condition c]]]⟩
  have he : Engine.new ⟨.defaults, false⟩ (.ofChecked Catalog.library) .postgres =
      .ok library := rfl
  have hs : (library.filter "Author" f).outcome = .ok s := rfl
  have hoccurs : Clause.Occurs c [books, author] s.clauses :=
    ⟨_, List.mem_cons_self, _, List.mem_cons_self, List.mem_cons_self⟩
  have hnamed : ∀ d ∈ library.catalog.declarations, d.Named := by
    simp [library, Catalog.ofChecked, Catalog.library, Declaration.Named]
  obtain ⟨m, names, n, hfind, htable, hleads, hnames, hallows⟩ :=
    authorized_of_occurs Catalog.build_library he Registry.builtIn_defaults hs hoccurs
  rw [hnames hnamed] at hleads
  exact ⟨s, m, n, hs, hoccurs, hfind, htable, hleads, hallows⟩

/-- Users whose posts are declared under the name of articles: the relation stands under
`posts`, and calls itself otherwise. -/
def Engine.misnamed : Engine where
  resolver := ⟨.defaults, false⟩
  catalog := .ofChecked
    [⟨"User", none, "id", ["id", "posts"], [], [("posts", .new "articles" "Post" .oneToMany)]⟩,
     ⟨"Post", none, "id", ["title"], [], []⟩]
  dialect := .postgres

/-- What is declared that way is taken for a catalog, and a filter on the posts for a query.
Its clause carries a name that is no field of any model, so that the name leads nowhere. -/
theorem Engine.not_leads_misnamed :
    let f : Filter := .group [("posts", .group [("title", .group [("$eq", .leaf (.text "a"))])])]
    let c : Condition := .compare "title" .eq (.text "a")
    let posts : Join × Frame :=
      (.has "articles" .oneToMany "posts" "user_id" "id", ⟨.postgres, "posts", some "r1", 1⟩)
    (Catalog.build misnamed.catalog.declarations).outcome = .ok misnamed.catalog ∧
    Engine.new misnamed.resolver misnamed.catalog misnamed.dialect = .ok misnamed ∧
    misnamed.resolver.registry.BuiltIn ∧
    (misnamed.filter "User" f).outcome =
      .ok ⟨.root .postgres "users", [.related posts.1 posts.2 [.condition c]]⟩ ∧
    Clause.Occurs c [posts] [.related posts.1 posts.2 [.condition c]] ∧
    ¬ ∃ m n, misnamed.catalog.Leads m ([posts].map (·.1.name)) [posts] n := by
  refine ⟨?_, rfl, Registry.builtIn_defaults, rfl, ⟨_, List.mem_cons_self, List.mem_cons_self⟩, ?_⟩
  · refine Catalog.outcome_build_eq_ok_iff.mpr ⟨by decide, ?_, rfl⟩
    simp only [Declaration.problems_eq_nil_iff]
    decide
  · rintro ⟨m, n, next, hcrosses, -⟩
    have hfields : ∀ d ∈ misnamed.catalog.declarations, "articles" ∉ d.fields := by decide
    exact hfields _ (List.getElem_mem m.isLt) hcrosses.field

end Sift
