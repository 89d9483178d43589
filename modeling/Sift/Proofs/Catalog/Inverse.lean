import Sift.Proofs.Meaning.Database

/-!
# Sift.Proofs.Catalog.Inverse

Relations that lead back.  The join of a relation and the join of its inverse are worked out
from different settings, but name the same columns, each from its own side.

Main statements:

* `reaches_iff_of_mirrors` — mirrored joins tie the same rows together;
* `inverse_joins_mirror` — a relation and its inverse have mirrored joins, so a row is reached
  through one exactly if it reaches back through the other.
-/

namespace Sift

/-! ## Joins from the other side -/

/-- A link table read from the related side. -/
def LinkTable.swap (l : LinkTable) : LinkTable := ⟨l.table, l.targetColumn, l.sourceColumn⟩

namespace Join

/-- Two joins name the same columns, each from its own side. -/
structure Mirrors (j k : Join) : Prop where
  parent : j.parentColumn = k.relatedColumn
  related : j.relatedColumn = k.parentColumn
  link : j.link = k.link.map LinkTable.swap

/-- A row is reached from a parent row: it is a row of the related table that the join ties to
the parent. -/
def Reaches (j : Join) (db : Database) (parent row : db.Row) : Prop :=
  row ∈ db.rows j.relatedTable ∧ j.Ties db parent row

variable {j k : Join} {db : Database}

/-- Where the order of two values makes no difference to whether they are equal, mirrored
joins tie the same rows together. -/
theorem ties_iff_of_mirrors (h : j.Mirrors k) (hsymm : ∀ x y, db.Equal x y → db.Equal y x)
    {a b : db.Row} : j.Ties db a b ↔ k.Ties db b a := by
  unfold Ties
  rw [h.link, h.parent, h.related]
  cases k.link with
  | none => exact ⟨hsymm _ _, hsymm _ _⟩
  | some link =>
      -- The row of the link table is the same, and its two columns change sides.
      refine exists_congr fun row => and_congr_right fun _ => ?_
      exact and_comm

/-- Of two joins that mirror each other, one leads from a row to another exactly if the other
leads back. -/
theorem reaches_iff_of_mirrors (h : j.Mirrors k) (hsymm : ∀ x y, db.Equal x y → db.Equal y x)
    {a b : db.Row} (ha : a ∈ db.rows k.relatedTable) (hb : b ∈ db.rows j.relatedTable) :
    j.Reaches db a b ↔ k.Reaches db b a := by
  rw [Reaches, Reaches, and_iff_right ha, and_iff_right hb]
  exact ties_iff_of_mirrors h hsymm

end Join

/-! ## Declared inverses -/

namespace Naming

/-- A link table is called after both models, the one that comes first in front. -/
theorem linkTable_of_le {a b : String} (h : snakeCase a ≤ snakeCase b) :
    linkTable a b = snakeCase a ++ "_" ++ snakeCase b :=
  if_neg (String.not_lt.mpr h)

theorem linkTable_of_ge {a b : String} (h : snakeCase b ≤ snakeCase a) :
    linkTable a b = snakeCase b ++ "_" ++ snakeCase a := by
  show (if snakeCase b < snakeCase a then _ else _) = _
  split
  · rfl
  · next hle => rw [String.le_antisymm h (String.not_lt.mp hle)]

/-- The link table of two models is the same from either side. -/
theorem linkTable_comm (a b : String) : linkTable a b = linkTable b a := by
  rcases String.le_total (snakeCase a) (snakeCase b) with h | h
  · rw [linkTable_of_le h, linkTable_of_ge h]
  · rw [linkTable_of_ge h, linkTable_of_le h]

end Naming

namespace RelationDeclaration

/-- A relation of an owner and a relation that is declared to lead back to it.  Relations
through a link table have the same settings the other way round, or leave them out.  Others
have the same foreign key, or leave it out where the relation back is called like the owner,
and refer to the same column of the owner, which is its primary key where it is left out. -/
inductive Inverse (owner : Declaration) (r s : RelationDeclaration) : Prop
  | linked (hr : r.kind = .manyToMany) (hs : s.kind = .manyToMany)
      (htable : r.linkTable = s.linkTable) (hsource : r.linkSource = s.linkTarget)
      (htarget : r.linkTarget = s.linkSource)
  | keyed (hr : r.kind = .oneToOne ∨ r.kind = .oneToMany) (hs : s.kind = .manyToOne)
      (hforeign : r.foreignKey = s.foreignKey)
      (hname : r.foreignKey = none → Naming.snakeCase s.name = Naming.snakeCase owner.name)
      (howner : r.ownerKey.getD owner.primaryKey = s.ownerKey.getD owner.primaryKey)

/-- A link table that is given to both sides, the other way round. -/
example (owner : Declaration) (table source target : String) :
    ((new "tags" "Tag" .manyToMany).through table source target).Inverse owner
      ((new "posts" "Post" .manyToMany).through table target source) :=
  .linked rfl rfl rfl rfl rfl

variable {r s : RelationDeclaration} {owner related : Declaration}

/-- Where the foreign key is left out, both sides name it after the owner. -/
theorem foreignKey_of_inverse (hforeign : r.foreignKey = s.foreignKey)
    (hname : r.foreignKey = none → Naming.snakeCase s.name = Naming.snakeCase owner.name) :
    r.foreignKey.getD (Naming.reference owner.name) =
      s.foreignKey.getD (Naming.reference s.name) := by
  rw [← hforeign]
  cases hkey : r.foreignKey with
  | some key => rfl
  | none => simp only [Option.getD_none, Naming.reference, hname hkey]

/-- Relations that are declared as inverse of each other have joins that mirror each other. -/
theorem mirrors_of_inverse (h : r.Inverse owner s) :
    (r.join owner related).Mirrors (s.join related owner) := by
  cases h with
  | linked hr hs htable hsource htarget =>
      simp only [join, hr, hs]
      refine ⟨rfl, rfl, ?_⟩
      simp only [Join.through, Option.map_some, LinkTable.swap, htable, hsource, htarget,
        Naming.linkTable_comm owner.name related.name]
  | keyed hr hs hforeign hname howner =>
      have hkey := foreignKey_of_inverse hforeign hname
      rcases hr with hr | hr <;> simp only [join, hr, hs] <;> exact ⟨howner, hkey, rfl⟩

/-- A relation and the one that leads back have mirrored joins.  So in every database a row of
the related model is reached from a row of the owner exactly if the row of the owner is reached
back. -/
theorem inverse_joins_mirror (h : r.Inverse owner s) :
    (r.join owner related).Mirrors (s.join related owner) ∧
    ∀ db : Database, (∀ x y, db.Equal x y → db.Equal y x) →
      ∀ a ∈ db.rows owner.tableName, ∀ b ∈ db.rows related.tableName,
        (r.join owner related).Reaches db a b ↔ (s.join related owner).Reaches db b a := by
  have hmirrors : (r.join owner related).Mirrors (s.join related owner) := mirrors_of_inverse h
  refine ⟨hmirrors, fun db hsymm a ha b hb => ?_⟩
  rw [← relatedTable_join s related owner] at ha
  rw [← relatedTable_join r owner related] at hb
  exact Join.reaches_iff_of_mirrors hmirrors hsymm ha hb

end RelationDeclaration

/-! ## A post and its tag -/

/-- One post by one user, with one tag. -/
def Database.blog : Database where
  Cell := Nat
  Equal x y := x = y
  rows
    | "users" => [fun _ => (1 : Nat)]
    | "posts" => [fun column => (if column = "user_id" then 1 else 2 : Nat)]
    | "tags" => [fun _ => (3 : Nat)]
    | "post_tag" => [fun column => (if column = "post_id" then 2 else 3 : Nat)]
    | _ => []
  Satisfies _ _ := True

/-- The post is reached from its tag as the tag is from the post, and from its author as the
author is from the post, with all keys left to convention. -/
theorem RelationDeclaration.inverse_joins_blog :
    let user := Declaration.new "User"
    let post := Declaration.new "Post"
    let tag := Declaration.new "Tag"
    let tags := new "tags" "Tag" .manyToMany
    let tagged := new "posts" "Post" .manyToMany
    let written := new "posts" "Post" .oneToMany
    let author := new "user" "User" .manyToOne
    let u : Database.blog.Row := fun _ => (1 : Nat)
    let p : Database.blog.Row := fun column => (if column = "user_id" then 1 else 2 : Nat)
    let t : Database.blog.Row := fun _ => (3 : Nat)
    (tags.Inverse post tagged ∧ (tags.join post tag).Reaches Database.blog p t ∧
      (tagged.join tag post).Reaches Database.blog t p) ∧
    written.Inverse user author ∧ (author.join post user).Reaches Database.blog p u ∧
      (written.join user post).Reaches Database.blog u p := by
  intro user post tag tags tagged written author u p t
  have hlinked : tags.Inverse post tagged := .linked rfl rfl rfl rfl rfl
  have hkeyed : written.Inverse user author := .keyed (.inr rfl) rfl rfl (fun _ => by decide) rfl
  have hsymm (x y : Nat) (h : x = y) : y = x := h.symm
  have hu : u ∈ Database.blog.rows user.tableName := by
    rw [show user.tableName = "users" by decide]
    exact List.mem_singleton_self u
  have hp : p ∈ Database.blog.rows post.tableName := by
    rw [show post.tableName = "posts" by decide]
    exact List.mem_singleton_self p
  have ht : t ∈ Database.blog.rows tag.tableName := by
    rw [show tag.tableName = "tags" by decide]
    exact List.mem_singleton_self t
  have htags : (tags.join post tag).Reaches Database.blog p t := by
    rw [show tags.join post tag =
      .through "tags" "tags" ⟨"post_tag", "post_id", "tag_id"⟩ "id" "id" by decide]
    exact ⟨List.mem_singleton_self t, _, List.mem_singleton_self _, rfl, rfl⟩
  have hauthor : (author.join post user).Reaches Database.blog p u := by
    rw [show author.join post user = .belongsTo "user" "users" "user_id" "id" by decide]
    exact ⟨List.mem_singleton_self u, rfl⟩
  refine ⟨⟨hlinked, htags, ?_⟩, hkeyed, hauthor, ?_⟩
  · exact ((inverse_joins_mirror hlinked).2 Database.blog hsymm p hp t ht).mp htags
  · exact ((inverse_joins_mirror hkeyed).2 Database.blog hsymm u hu p hp).mpr hauthor

end Sift
