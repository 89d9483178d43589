import Sift.Proofs.Catalog.Checked

/-!
# Sift.Proofs.Catalog.Relations

The relations of a catalog are those of its declarations.

Main statements:

* `named_relation` — declaring relations puts them under their own names;
* `relation_eq_some_iff` — in a catalog that has been built a relation leads from a model
  exactly if the model declares it, and then to the model that the declaration names, by
  the columns that the declaration gives.
-/

namespace Sift

/-! ## Names of relations -/

namespace Declaration

/-- Every relation stands under its own name. -/
def Named (d : Declaration) : Prop := ∀ e ∈ d.relations, e.2.name = e.1

theorem named_new (name : String) : (new name).Named := by simp [Named, new]

/-- Declaring a relation puts it under its own name. -/
theorem named_relation {d : Declaration} (h : d.Named) (r : RelationDeclaration) :
    (d.relation r).Named :=
  Keyed.forall_mem_put h rfl

end Declaration

namespace Catalog

/-! ## Where relations lead -/

/-- Every relation of some declarations leads to one of them. -/
def Closed (ds : List Declaration) : Prop :=
  ∀ d ∈ ds, ∀ e ∈ d.relations, e.2.model ∈ ds.map Declaration.name

/-- A catalog that has been built is made of declarations that lead to each other only. -/
theorem closed_of_build {ds : List Declaration} {c : Catalog}
    (h : (build ds).outcome = .ok c) : Closed ds ∧ c = ofChecked ds := by
  obtain ⟨-, hproblems, hc⟩ := outcome_build_eq_ok_iff.mp h
  exact ⟨fun d hd => (Declaration.problems_eq_nil_iff.mp (hproblems d hd)).2.2, hc⟩

/-- Every name of a declaration has a position. -/
theorem exists_position?_of_mem {ds : List Declaration} {name : String}
    (h : name ∈ ds.map Declaration.name) : ∃ i, position? ds name = some i := by
  obtain ⟨d, hd, rfl⟩ := List.mem_map.mp h
  cases hpos : position? ds d.name with
  | some i => exact ⟨i, rfl⟩
  | none =>
      have hnone := List.findFinIdx?_eq_none_iff.mp hpos d hd
      simp at hnone

/-- Where all relations lead to declared models, no relation is left out. -/
theorem find?_linksOf {ds : List Declaration} {d : Declaration}
    (h : ∀ e ∈ d.relations, e.2.model ∈ ds.map Declaration.name) (name : String) :
    ((linksOf ds d).find? (·.name = name)).map (fun l => (l.target, l.join)) =
      (Keyed.get? d.relations name).bind fun r =>
        (position? ds r.model).map fun i => (i, r.join d (ds.get i)) := by
  rw [linksOf]
  generalize d.relations = rs at h
  induction rs with
  | nil => rfl
  | cons e es ih =>
      have hrest := ih fun x hx => h x (List.mem_cons_of_mem e hx)
      obtain ⟨i, hi⟩ := exists_position?_of_mem (h e List.mem_cons_self)
      rw [List.filterMap_cons, hi, Keyed.get?]
      by_cases hname : e.1 = name
      · simp [hname, hi]
      · simpa [hname] using hrest

/-- In a closed catalog a relation leads to the position of the model that it names. -/
theorem relation_ofChecked {ds : List Declaration} (hclosed : Closed ds) (m : Fin ds.length)
    (name : String) :
    (ofChecked ds).graph.relation m name =
      (Keyed.get? (ds.get m).relations name).bind fun r =>
        (position? ds r.model).map fun i => (i, r.join (ds.get m) (ds.get i)) := by
  rw [← find?_linksOf (hclosed (ds.get m) (List.get_mem ds m)) name]
  exact congrArg (fun links => (links.find? (·.name = name)).map fun l => (l.target, l.join))
    (links_ofChecked ds m)

/-- A relation is looked up among those that the model declares, and its model by name. -/
theorem relation_of_build {ds : List Declaration} {c : Catalog}
    (hc : (build ds).outcome = .ok c) (m : c.Model) (name : String) :
    c.graph.relation m name =
      (Keyed.get? (c.declaration m).relations name).bind fun r =>
        (c.find? r.model).map fun i => (i, r.join (c.declaration m) (c.declaration i)) := by
  obtain ⟨hclosed, rfl⟩ := closed_of_build hc
  exact relation_ofChecked hclosed m name

/-- A relation leads from a model exactly if the model declares it, and then to the model
that the declaration names, by the columns that the declaration gives. -/
theorem relation_eq_some_iff {ds : List Declaration} {c : Catalog}
    (hc : (build ds).outcome = .ok c) {m target : c.Model} {name : String} {join : Join} :
    c.graph.relation m name = some (target, join) ↔
      ∃ r, Keyed.get? (c.declaration m).relations name = some r ∧
        c.find? r.model = some target ∧
        join = r.join (c.declaration m) (c.declaration target) := by
  simp only [relation_of_build hc, Option.bind_eq_some_iff, Option.map_eq_some_iff,
    Prod.mk.injEq]
  constructor
  · rintro ⟨r, hr, i, hi, rfl, rfl⟩
    exact ⟨r, hr, hi, rfl⟩
  · rintro ⟨r, hr, hi, rfl⟩
    exact ⟨r, hr, target, hi, rfl, rfl⟩

/-- Looking a model up finds the first that is declared under the name. -/
theorem map_declaration_find? (c : Catalog) (name : String) :
    (c.find? name).map c.declaration = c.declarations.find? (·.name = name) := by
  rw [List.find?_eq_map_findFinIdx?_getElem]
  rfl

/-- The model of a name has the first declaration with that name. -/
theorem find?_declarations {c : Catalog} {name : String} {m : c.Model}
    (h : c.find? name = some m) :
    c.declarations.find? (·.name = name) = some (c.declaration m) := by
  rw [← map_declaration_find?, h, Option.map_some]

end Catalog

end Sift
