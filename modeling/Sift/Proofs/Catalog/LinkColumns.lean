import Sift.Proofs.Catalog.Integrity
import Sift.Proofs.Catalog.Inverse

/-!
# Sift.Proofs.Catalog.LinkColumns

The two columns of a link table, where they are named by convention.  Each is named after one
of the two models, so they are two columns only if the models have different names there.

Main statements:

* `relatesOthers_iff` — a join through a link table can tie rows with different keys together
  exactly if the columns of the link table differ;
* `linkColumns_ne_iff` — by convention they differ exactly if the names of the models do, in
  lower case with underscores;
* `linkColumns_friends` — a model that is related to itself has both keys in one column.
-/

namespace Sift

/-! ## Joins through one column -/

/-- Every table has a row with a one in a single column, a row of zeros and a row of ones. -/
def Database.single (column : String) : Database where
  Cell := Bool
  Equal x y := x = y
  rows _ := [fun c => decide (c = column), fun _ => false, fun _ => true]
  Satisfies _ _ := True

namespace Join

/-- In some database the join reaches a row with another key from a row of a table.  Values
are compared as databases do: from either side, and through a third. -/
def RelatesOthers (j : Join) (table : String) : Prop :=
  ∃ db : Database, (∀ x y, db.Equal x y → db.Equal y x) ∧
    (∀ x y z, db.Equal x y → db.Equal y z → db.Equal x z) ∧
    ∃ parent ∈ db.rows table, ∃ row, j.Reaches db parent row ∧
      ¬ db.Equal (row j.relatedColumn) (parent j.parentColumn)

variable {j : Join} {link : LinkTable}

/-- A link table ties two rows if one of its rows has the keys of both. -/
theorem ties_iff_of_link (hlink : j.link = some link) {db : Database} {parent row : db.Row} :
    j.Ties db parent row ↔ ∃ keys ∈ db.rows link.table,
      db.Equal (keys link.targetColumn) (row j.relatedColumn) ∧
      db.Equal (keys link.sourceColumn) (parent j.parentColumn) := by
  unfold Ties
  rw [hlink]

/-- A link table with one column for both keys ties rows with equal keys together only. -/
theorem equal_of_ties (hlink : j.link = some link)
    (hcolumns : link.sourceColumn = link.targetColumn) {db : Database}
    (hsymm : ∀ x y, db.Equal x y → db.Equal y x)
    (htrans : ∀ x y z, db.Equal x y → db.Equal y z → db.Equal x z) {parent row : db.Row}
    (h : j.Ties db parent row) : db.Equal (row j.relatedColumn) (parent j.parentColumn) := by
  obtain ⟨keys, -, htarget, hsource⟩ := (ties_iff_of_link hlink).mp h
  rw [hcolumns] at hsource
  exact htrans _ _ _ (hsymm _ _ htarget) hsource

/-- A join through a link table can tie rows with different keys together exactly if the
columns of the link table differ. -/
theorem relatesOthers_iff (hlink : j.link = some link) (table : String) :
    j.RelatesOthers table ↔ link.sourceColumn ≠ link.targetColumn := by
  constructor
  · rintro ⟨db, hsymm, htrans, parent, -, row, ⟨-, hties⟩, hne⟩ hcolumns
    exact hne (equal_of_ties hlink hcolumns hsymm htrans hties)
  · intro hcolumns
    have hties : j.Ties (.single link.targetColumn) (fun _ => false) (fun _ => true) := by
      refine (ties_iff_of_link hlink).mpr ⟨_, List.mem_cons_self, ?_, ?_⟩
      · exact decide_eq_true rfl
      · exact decide_eq_false hcolumns
    exact ⟨.single link.targetColumn, fun _ _ => Eq.symm, fun _ _ _ => Eq.trans,
      fun _ => false, .tail _ (.head _), fun _ => true, ⟨.tail _ (.tail _ (.head _)), hties⟩,
      Bool.noConfusion⟩

end Join

/-! ## Columns by convention -/

/-- Two models are referred to by the same column exactly if their names are the same with
underscores. -/
theorem Naming.reference_inj {a b : String} :
    reference a = reference b ↔ snakeCase a = snakeCase b :=
  String.append_left_inj "_id"

namespace Catalog

/-- Where a relation through a link table leaves out the keys, the columns of the link table
differ exactly if the names of the two models do, in lower case with underscores.  Exactly then
the relation can lead from a row to a row with another key. -/
theorem linkColumns_ne_iff {ds : List Declaration} {c : Catalog}
    (hc : (build ds).outcome = .ok c) {m : c.Model} {name : String} {r : RelationDeclaration}
    (hr : Keyed.get? (c.declaration m).relations name = some r) (hkind : r.kind = .manyToMany)
    (hsource : r.linkSource = none) (htarget : r.linkTarget = none) :
    ∃ target join link, c.graph.relation m name = some (target, join) ∧
      join.link = some link ∧
      (link.sourceColumn ≠ link.targetColumn ↔
        Naming.snakeCase (c.declaration m).name ≠
          Naming.snakeCase (c.declaration target).name) ∧
      (join.RelatesOthers (c.declaration m).tableName ↔
        Naming.snakeCase (c.declaration m).name ≠
          Naming.snakeCase (c.declaration target).name) := by
  obtain ⟨target, hfind⟩ := exists_find?_model hc hr
  have hrelation := (relation_eq_some_iff hc).mpr ⟨r, hr, hfind, rfl⟩
  have hlink : (r.join (c.declaration m) (c.declaration target)).link = some
      ⟨r.linkTable.getD (Naming.linkTable (c.declaration m).name (c.declaration target).name),
        Naming.reference (c.declaration m).name,
        Naming.reference (c.declaration target).name⟩ := by
    simp only [RelationDeclaration.join, hkind, hsource, htarget, Join.through,
      Option.getD_none]
  have hcolumns := not_congr (Naming.reference_inj (a := (c.declaration m).name)
    (b := (c.declaration target).name))
  exact ⟨target, _, _, hrelation, hlink, hcolumns,
    (Join.relatesOthers_iff hlink _).trans hcolumns⟩

/-! ## Friends and groups -/

/-- Users, who have friends among them and belong to groups. -/
def community : List Declaration :=
  [((Declaration.new "User").relation (.new "friends" "User" .manyToMany)).relation
      (.new "groups" "Group" .manyToMany),
   Declaration.new "Group"]

theorem build_community : (build community).outcome = .ok (ofChecked community) := by
  refine outcome_build_eq_ok_iff.mpr ⟨by decide, ?_, rfl⟩
  simp only [Declaration.problems_eq_nil_iff]
  decide

/-- Users and groups have a column each, so a user can be in a group with another key. -/
theorem linkColumns_groups :
    let user : (ofChecked community).Model := (0 : Fin 2)
    let group : (ofChecked community).Model := (1 : Fin 2)
    let groups : RelationDeclaration := .new "groups" "Group" .manyToMany
    let join : Join := .through "groups" "groups" ⟨"group_user", "user_id", "group_id"⟩ "id" "id"
    (build community).outcome = .ok (ofChecked community) ∧
      Keyed.get? ((ofChecked community).declaration user).relations "groups" = some groups ∧
      groups.kind = .manyToMany ∧ groups.linkSource = none ∧ groups.linkTarget = none ∧
      (ofChecked community).graph.relation user "groups" = some (group, join) ∧
      join.RelatesOthers "users" := by
  intro user group groups join
  have hr : Keyed.get? ((ofChecked community).declaration user).relations "groups" =
      some groups := by decide
  have hrelation : (ofChecked community).graph.relation user "groups" = some (group, join) := rfl
  have htable : ((ofChecked community).declaration user).tableName = "users" := by decide
  obtain ⟨target, join', link, hrelation', -, -, hothers⟩ :=
    linkColumns_ne_iff build_community hr rfl rfl rfl
  obtain ⟨rfl, rfl⟩ := Prod.mk.inj (Option.some.inj (hrelation.symm.trans hrelation'))
  rw [htable] at hothers
  exact ⟨build_community, hr, rfl, rfl, rfl, hrelation, hothers.mpr (by decide)⟩

/-- The friends of a user have their keys in the column that the user has its own in, so that
users are friends of themselves only. -/
theorem linkColumns_friends :
    let user : (ofChecked community).Model := (0 : Fin 2)
    let friends : RelationDeclaration := .new "friends" "User" .manyToMany
    let join : Join := .through "friends" "users" ⟨"user_user", "user_id", "user_id"⟩ "id" "id"
    (build community).outcome = .ok (ofChecked community) ∧
      Keyed.get? ((ofChecked community).declaration user).relations "friends" = some friends ∧
      friends.kind = .manyToMany ∧ friends.linkSource = none ∧ friends.linkTarget = none ∧
      (ofChecked community).graph.relation user "friends" = some (user, join) ∧
      ¬ join.RelatesOthers "users" := by
  intro user friends join
  have hr : Keyed.get? ((ofChecked community).declaration user).relations "friends" =
      some friends := by decide
  have hrelation : (ofChecked community).graph.relation user "friends" = some (user, join) := rfl
  exact ⟨build_community, hr, rfl, rfl, rfl, hrelation,
    fun h => (Join.relatesOthers_iff rfl _).mp h rfl⟩

end Catalog

end Sift
