import Sift.Catalog.Declaration
import Sift.Scope

/-!
# Sift.Proofs.Meaning.Database

What clauses mean.  A database has finitely many rows in every table, says when two values
tie rows together, and says of which rows a condition holds.

Main statements:

* `ties_join_iff` — the columns of a join tie a row to the rows that the declaration of
  the relation links it to;
* `allHold_append` — clauses hold one by one.
-/

namespace Sift

/-- The rows of all tables, and what is true of them. -/
structure Database where
  /-- The values that stand in columns, null included. -/
  Cell : Type
  /-- Whether values count as equal where rows are tied together. -/
  Equal : Cell → Cell → Prop
  /-- The rows of a table, as the values in their columns. -/
  rows : String → List (String → Cell)
  /-- Whether a condition on a single column is true of a row. -/
  Satisfies : (String → Cell) → Condition → Prop

namespace Database

/-- A row of a table. -/
abbrev Row (db : Database) := String → db.Cell

end Database

/-! ## Clauses -/

/-- A join ties a parent row to a related row: the related row has the value of the parent
row, or a row of the link table has the values of both. -/
def Join.Ties (join : Join) (db : Database) (parent related : db.Row) : Prop :=
  match join.link with
  | none => db.Equal (related join.relatedColumn) (parent join.parentColumn)
  | some link => ∃ row ∈ db.rows link.table,
      db.Equal (row link.targetColumn) (related join.relatedColumn) ∧
      db.Equal (row link.sourceColumn) (parent join.parentColumn)

mutual

/-- A clause holds of a row: a condition if it is true of it, a clause about related rows
if some row that the join ties to it satisfies all clauses inside. -/
def Clause.Holds (db : Database) : Clause → db.Row → Prop
  | .condition c, row => db.Satisfies row c
  | .related join _ clauses, row =>
    ∃ other ∈ db.rows join.relatedTable, join.Ties db row other ∧ AllHold db clauses other

/-- All clauses hold of a row. -/
def Clause.AllHold (db : Database) : List Clause → db.Row → Prop
  | [], _ => True
  | c :: cs, row => c.Holds db row ∧ AllHold db cs row

end

namespace Clause

variable {db : Database}

@[simp] theorem allHold_nil (row : db.Row) : AllHold db [] row := trivial

/-- Clauses hold one by one. -/
theorem allHold_cons {c : Clause} {cs : List Clause} {row : db.Row} :
    AllHold db (c :: cs) row ↔ c.Holds db row ∧ AllHold db cs row := by
  rw [AllHold]

/-- Clauses hold one by one. -/
theorem allHold_append {cs ds : List Clause} {row : db.Row} :
    AllHold db (cs ++ ds) row ↔ AllHold db cs row ∧ AllHold db ds row := by
  induction cs with
  | nil => simp
  | cons c cs ih => simp only [List.cons_append, allHold_cons, ih, and_assoc]

/-- The clauses of several things hold if those of each do. -/
theorem allHold_flatMap {α : Type} {f : α → List Clause} {as : List α} {row : db.Row} :
    AllHold db (as.flatMap f) row ↔ ∀ a ∈ as, AllHold db (f a) row := by
  induction as with
  | nil => simp
  | cons a as ih => simp [allHold_append, ih]

end Clause

/-! ## Declared relations -/

namespace RelationDeclaration

/-- A relation links a row of its owner to another row.  Where there is one related row
or many, their foreign key is the owner key of the row; where there are many owners, the
foreign key of the row is the owner key of the related row; and many rows on both sides are
linked by a row of the link table that has both primary keys. -/
def Links (r : RelationDeclaration) (db : Database) (owner related : Declaration)
    (row other : db.Row) : Prop :=
  match r.kind with
  | .oneToOne | .oneToMany =>
    db.Equal (other (r.foreignKey.getD (Naming.reference owner.name)))
      (row (r.ownerKey.getD owner.primaryKey))
  | .manyToOne =>
    db.Equal (other (r.ownerKey.getD related.primaryKey))
      (row (r.foreignKey.getD (Naming.reference r.name)))
  | .manyToMany =>
    ∃ link ∈ db.rows (r.linkTable.getD (Naming.linkTable owner.name related.name)),
      db.Equal (link (r.linkTarget.getD (Naming.reference related.name)))
        (other related.primaryKey) ∧
      db.Equal (link (r.linkSource.getD (Naming.reference owner.name))) (row owner.primaryKey)

variable (r : RelationDeclaration) (owner related : Declaration)

/-- The join of a relation leads to the table of the related model. -/
theorem relatedTable_join : (r.join owner related).relatedTable = related.tableName := by
  unfold join
  cases r.kind <;> rfl

/-- The join of a relation has the name of the relation. -/
theorem name_join : (r.join owner related).name = r.name := by
  unfold join
  cases r.kind <;> rfl

/-- The join of a relation ties the rows together that the relation links. -/
theorem ties_join_iff {db : Database} {row other : db.Row} :
    (r.join owner related).Ties db row other ↔ r.Links db owner related row other := by
  unfold join Links
  cases r.kind <;> exact Iff.rfl

end RelationDeclaration

end Sift
