import Sift.Config
import Sift.Proofs.Catalog.Relations

/-!
# Sift.Proofs.Catalog.Integrity

A catalog that has been built holds all of its declarations, and its relations stay among
them.

Main statements:

* `coherent_of_made` — however a declaration is made, its relations stand under their own
  names and are fields;
* `made_of_declarations` — all declarations of a configuration are made;
* `declaration_follow` — a chain of relations leads from model to model as the declarations
  lead from name to name;
* `serves_of_build` — so the catalog serves what was declared.
-/

namespace Sift

/-! ## Making declarations -/

namespace Declaration

/-- A declaration that is made step by step, or that a configuration makes. -/
inductive Made : Declaration → Prop
  | new (name : String) : Made (new name)
  | table {d : Declaration} (name : String) : Made d → Made { d with table := some name }
  | primaryKey {d : Declaration} (column : String) : Made d → Made { d with primaryKey := column }
  | fields {d : Declaration} (fields : List String) : Made d → Made (d.addFields fields)
  | restrict {d : Declaration} (field : String) (operators : List String) :
      Made d → Made (d.restrict field operators)
  | relation {d : Declaration} (r : RelationDeclaration) : Made d → Made (d.relation r)
  | configured {m : Config.Model} {name : String} {d : Declaration} :
      m.declare name = .ok d → Made d

/-- The relations of a declaration stand under their own names and are fields. -/
structure Coherent (d : Declaration) : Prop where
  named : d.Named
  fields : ∀ e ∈ d.relations, e.1 ∈ d.fields

theorem coherent_new (name : String) : (new name).Coherent :=
  ⟨named_new name, by simp [new]⟩

/-- Declaring a relation keeps the fields that are declared already. -/
theorem mem_fields_relation {d : Declaration} {field : String} (h : field ∈ d.fields)
    (r : RelationDeclaration) : field ∈ (d.relation r).fields := by
  show field ∈ if d.hasField r.name then d.fields else d.fields ++ [r.name]
  split
  · exact h
  · exact List.mem_append_left [r.name] h

/-- A declaration stays coherent when a relation is declared. -/
theorem Coherent.relation {d : Declaration} (h : d.Coherent) (r : RelationDeclaration) :
    (d.relation r).Coherent where
  named := named_relation h.named r
  fields := by
    refine Keyed.forall_mem_put (fun e he => mem_fields_relation (h.fields e he) r) ?_
    simpa [hasField] using hasField_relation d r

end Declaration

namespace Config

/-- The declarations of a configuration are those of its models. -/
theorem exists_declare_of_mem {c : Config} {ds : List Declaration}
    (h : c.declarations = .ok ds) {d : Declaration} (hd : d ∈ ds) :
    ∃ e ∈ c.models, e.2.declare e.1 = .ok d := by
  rw [declarations] at h
  generalize c.models = models at h
  induction models generalizing ds with
  | nil =>
      cases h
      simp at hd
  | cons e es ih =>
      rw [List.mapM_cons, except_bind_eq_ok_iff] at h
      obtain ⟨first, hfirst, h⟩ := h
      obtain ⟨rest, hrest, h⟩ := except_bind_eq_ok_iff.mp h
      cases h
      rcases List.mem_cons.mp hd with rfl | hd
      · exact ⟨e, List.mem_cons_self, hfirst⟩
      · obtain ⟨e', he', hdeclare⟩ := ih hd hrest
        exact ⟨e', List.mem_cons_of_mem e he', hdeclare⟩

end Config

namespace Declaration

/-- The relations of a configured model are declared one by one. -/
theorem coherent_of_foldlM {name : String} {relations : List (String × Config.Relation)}
    {d d' : Declaration} (hd : d.Coherent)
    (h : relations.foldlM (fun d e => return d.relation (← e.2.declare name e.1)) d = .ok d') :
    d'.Coherent := by
  induction relations generalizing d with
  | nil =>
      cases h
      exact hd
  | cons e es ih =>
      rw [List.foldlM_cons, except_bind_eq_ok_iff] at h
      obtain ⟨_, hrelation, hrest⟩ := h
      obtain ⟨r, -, hr⟩ := except_bind_eq_ok_iff.mp hrelation
      cases hr
      exact ih (hd.relation r) hrest

/-- What a configuration declares is coherent. -/
theorem coherent_of_declare {m : Config.Model} {name : String} {d : Declaration}
    (h : m.declare name = .ok d) : d.Coherent := by
  refine coherent_of_foldlM ?_ h
  exact ⟨named_new name, by simp [new, addFields]⟩

/-- However a declaration is made, its relations stand under their own names and are
fields. -/
theorem coherent_of_made {d : Declaration} (h : d.Made) : d.Coherent := by
  induction h with
  | new name => exact coherent_new name
  | table name _ ih => exact ⟨ih.named, ih.fields⟩
  | primaryKey column _ ih => exact ⟨ih.named, ih.fields⟩
  | fields fields _ ih =>
      exact ⟨ih.named, fun e he => List.mem_append_left fields (ih.fields e he)⟩
  | restrict field operators _ ih => exact ⟨ih.named, ih.fields⟩
  | relation r _ ih => exact ih.relation r
  | configured h => exact coherent_of_declare h

/-- All declarations of a configuration are made. -/
theorem made_of_declarations {c : Config} {ds : List Declaration}
    (h : c.declarations = .ok ds) : ∀ d ∈ ds, d.Made := by
  intro d hd
  obtain ⟨e, -, hdeclare⟩ := Config.exists_declare_of_mem h hd
  exact .configured hdeclare

end Declaration

/-! ## Chains of relations -/

/-- The model that relations of the given names lead to, one after the other. -/
def ModelGraph.follow {M : Type} (g : ModelGraph M) : M → List String → Option M
  | m, [] => some m
  | m, name :: path => (g.relation m name).bind fun next => g.follow next.1 path

/-- The declaration that relations of the given names lead to, where each is declared to lead
to a name, and the name is looked up. -/
def Declaration.follow (ds : List Declaration) : Declaration → List String → Option Declaration
  | d, [] => some d
  | d, name :: path =>
    (Keyed.get? d.relations name).bind fun r =>
      (ds.find? (·.name = r.model)).bind fun next => follow ds next path

namespace Catalog

/-- One relation leads to the declaration of the name that it is declared to lead to. -/
theorem declaration_relation {ds : List Declaration} {c : Catalog}
    (hc : (build ds).outcome = .ok c) (m : c.Model) (name : String) :
    (c.graph.relation m name).map (fun next => c.declaration next.1) =
      (Keyed.get? (c.declaration m).relations name).bind fun r =>
        ds.find? (·.name = r.model) := by
  obtain ⟨-, rfl⟩ := closed_of_build hc
  rw [relation_of_build hc, Option.map_bind]
  congr 1
  funext r
  exact (Option.map_map ..).trans (map_declaration_find? (ofChecked ds) r.model)

/-- A chain of relations leads from model to model as the declarations lead from name to
name. -/
theorem declaration_follow {ds : List Declaration} {c : Catalog}
    (hc : (build ds).outcome = .ok c) (m : c.Model) (path : List String) :
    (c.graph.follow m path).map c.declaration =
      Declaration.follow ds (c.declaration m) path := by
  induction path generalizing m with
  | nil => rfl
  | cons name path ih =>
      have hstep := declaration_relation hc m name
      rw [ModelGraph.follow, Declaration.follow, ← Option.bind_assoc, ← hstep, Option.bind_map,
        Option.map_bind]
      exact congrArg _ (funext fun next => ih next.1)

/-! ## What is served -/

/-- A catalog serves declarations: the models are the declared ones, and relations lead from
them as they declare it. -/
structure Serves (c : Catalog) (ds : List Declaration) : Prop where
  /-- No two declarations have one name. -/
  distinct : (ds.map Declaration.name).Nodup
  /-- Every declaration is found under its name, with its fields and its restrictions. -/
  served : ∀ d ∈ ds, ∃ m, c.find? d.name = some m ∧ c.declaration m = d ∧
    c.graph.name m = d.name ∧ c.graph.fields m = d.fields ∧
    ∀ field, c.graph.allowed m field = Keyed.get? d.operators field
  /-- Every model, however it was reached, is declared and is found under its name. -/
  found : ∀ m, c.declaration m ∈ ds ∧ c.find? (c.graph.name m) = some m
  /-- A relation leads from a model exactly if the model declares it. -/
  related : ∀ m name, (c.graph.relation m name).isSome ↔
    name ∈ Keyed.keys (c.declaration m).relations
  /-- It is a field then, and leads to the model that is declared under the name that the
  relation gives, by the columns that follow from the two declarations. -/
  leads : ∀ m name target join, c.graph.relation m name = some (target, join) →
    name ∈ c.graph.fields m ∧ ∃ r, Keyed.get? (c.declaration m).relations name = some r ∧
      r.name = name ∧ (c.declaration target).name = r.model ∧ c.find? r.model = some target ∧
      join = r.join (c.declaration m) (c.declaration target)
  /-- So a chain of relations, in circles or not, leads from model to model as the
  declarations lead from name to name. -/
  follow : ∀ m path, (c.graph.follow m path).map c.declaration =
    Declaration.follow ds (c.declaration m) path

/-- Among distinct names, every model is the one that is found under its name. -/
theorem find?_name {c : Catalog} (h : (c.declarations.map Declaration.name).Nodup)
    (m : c.Model) : c.find? (c.declaration m).name = some m := by
  refine List.findFinIdx?_eq_some_iff.mpr ⟨by simp [declaration], ?_⟩
  intro i hi hname
  refine List.pairwise_iff_getElem.mp h i m (by simp) (by simp) hi ?_
  simpa [declaration] using of_decide_eq_true hname

/-- The name that a declared relation leads to is the name of a model. -/
theorem exists_find?_model {ds : List Declaration} {c : Catalog}
    (hc : (build ds).outcome = .ok c) {m : c.Model} {name : String} {r : RelationDeclaration}
    (h : Keyed.get? (c.declaration m).relations name = some r) :
    ∃ target, c.find? r.model = some target := by
  obtain ⟨hclosed, rfl⟩ := closed_of_build hc
  exact exists_position?_of_mem (hclosed _ (List.getElem_mem m.isLt) _ (Keyed.mem_of_get? h))

/-- No declared relation is left out, and there are no others. -/
theorem isSome_relation_iff {ds : List Declaration} {c : Catalog}
    (hc : (build ds).outcome = .ok c) (m : c.Model) (name : String) :
    (c.graph.relation m name).isSome ↔ name ∈ Keyed.keys (c.declaration m).relations := by
  rw [← Keyed.isSome_get?_iff, relation_of_build hc]
  cases hget : Keyed.get? (c.declaration m).relations name with
  | none => simp
  | some r =>
      obtain ⟨target, htarget⟩ := exists_find?_model hc hget
      simp [htarget]

/-- A catalog that has been built serves the declarations that it was built from, however
these were made. -/
theorem serves_of_build {ds : List Declaration} {c : Catalog} (hmade : ∀ d ∈ ds, d.Made)
    (hc : (build ds).outcome = .ok c) : c.Serves ds := by
  obtain ⟨hdistinct, -, rfl⟩ := outcome_build_eq_ok_iff.mp hc
  have hmem (m : (ofChecked ds).Model) : (ofChecked ds).declaration m ∈ ds :=
    List.getElem_mem m.isLt
  constructor
  case distinct => exact hdistinct
  case served =>
    intro d hd
    obtain ⟨i, hi, rfl⟩ := List.getElem_of_mem hd
    exact ⟨⟨i, hi⟩, find?_name hdistinct ⟨i, hi⟩, rfl, rfl, rfl, fun _ => rfl⟩
  case found => exact fun m => ⟨hmem m, find?_name hdistinct m⟩
  case related => exact isSome_relation_iff hc
  case leads =>
    intro m name target join hrelation
    obtain ⟨r, hget, hfind, hjoin⟩ := (relation_eq_some_iff hc).mp hrelation
    have hcoherent := Declaration.coherent_of_made (hmade _ (hmem m))
    have hentry := Keyed.mem_of_get? hget
    exact ⟨hcoherent.fields _ hentry, r, hget, hcoherent.named _ hentry,
      name_of_find? hfind, hfind, hjoin⟩
  case follow => exact declaration_follow hc

end Catalog

/-! ## Employees and teams -/

/-- Teams, as they are configured. -/
def Config.Model.team : Config.Model :=
  { table := none
    primaryKey := "id"
    fields := ["title"]
    operators := []
    relations := [("members", ⟨"Employee", "has_many", none, none, none, none, none⟩)] }

/-- Employees, who have a manager among them, and their teams. -/
def Catalog.staff : List Declaration :=
  [((((Declaration.new "Employee").addFields ["id", "name"]).restrict "name" ["$eq"]).relation
      (.new "manager" "Employee" .manyToOne)).relation (.new "team" "Team" .manyToOne),
   ((Declaration.new "Team").addFields ["title"]).relation (.new "members" "Employee" .oneToMany)]

/-- The relations of employees and teams lead in circles. -/
theorem Catalog.serves_staff :
    (∀ d ∈ staff, d.Made) ∧ (build staff).outcome = .ok (ofChecked staff) ∧
      (ofChecked staff).Serves staff := by
  have hteam : Config.Model.team.declare "Team" = .ok
      (((Declaration.new "Team").addFields ["title"]).relation
        (.new "members" "Employee" .oneToMany)) := rfl
  have hmade : ∀ d ∈ staff, d.Made := by
    refine List.forall_mem_cons.mpr ⟨?_, List.forall_mem_singleton.mpr (.configured hteam)⟩
    exact .relation _ (.relation _ (.restrict _ _ (.fields _ (.new _))))
  have hbuild : (build staff).outcome = .ok (ofChecked staff) := by
    refine outcome_build_eq_ok_iff.mpr ⟨by decide, ?_, rfl⟩
    simp only [Declaration.problems_eq_nil_iff]
    decide
  exact ⟨hmade, hbuild, serves_of_build hmade hbuild⟩

end Sift
