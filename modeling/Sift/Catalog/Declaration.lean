import Sift.Catalog.Naming
import Sift.Keyed
import Sift.Relation

/-!
# Sift.Catalog.Declaration

Declarations of models and their relations: what a client may filter, and by which
columns rows are tied together.  What is left out follows the usual conventions: the
name of the owner or the relation with `_id` for foreign keys, the primary key for
referenced keys, and the two names in order for link tables.

Main statement: `hasField_relation` — a relation is a filterable field.
-/

namespace Sift

/-- A relation as it is declared on a model. -/
structure RelationDeclaration where
  name : String
  /-- The name of the model it leads to. -/
  model : String
  kind : RelationKind
  /-- The column that holds the key of the other row. -/
  foreignKey : Option String
  /-- The column that is referred to. -/
  ownerKey : Option String
  linkTable : Option String
  /-- The column of the link table that refers to the model. -/
  linkSource : Option String
  /-- The column of the link table that refers to the related model. -/
  linkTarget : Option String
deriving DecidableEq, Repr

/-- A model as it is declared. -/
structure Declaration where
  name : String
  /-- The table, if it is not derived from the name. -/
  table : Option String
  primaryKey : String
  /-- Filterable columns and relations. -/
  fields : List String
  /-- The operators that fields are restricted to. -/
  operators : Keyed (List String)
  relations : Keyed RelationDeclaration
deriving DecidableEq, Repr

namespace RelationDeclaration

/-- A relation with conventional keys. -/
def new (name model : String) (kind : RelationKind) : RelationDeclaration :=
  ⟨name, model, kind, none, none, none, none, none⟩

def through (r : RelationDeclaration) (table source target : String) : RelationDeclaration :=
  { r with linkTable := some table, linkSource := some source, linkTarget := some target }

def inspect (r : RelationDeclaration) : String :=
  let text := Inspect.option Inspect.text
  Inspect.record "RelationDef"
    [("name", Inspect.text r.name), ("model", Inspect.text r.model), ("kind", r.kind.inspect),
     ("foreign_key", text r.foreignKey), ("owner_key", text r.ownerKey),
     ("join_table", text r.linkTable), ("join_local_key", text r.linkSource),
     ("join_foreign_key", text r.linkTarget)]

end RelationDeclaration

namespace Declaration

/-! ## Declaring -/

def new (name : String) : Declaration := ⟨name, none, "id", [], [], []⟩

def hasField (d : Declaration) (field : String) : Bool := d.fields.contains field

def addFields (d : Declaration) (fields : List String) : Declaration :=
  { d with fields := d.fields ++ fields }

def addField (d : Declaration) (field : String) : Declaration := d.addFields [field]

/-- With a field restricted to some operators, in place of an earlier restriction. -/
def restrict (d : Declaration) (field : String) (operators : List String) : Declaration :=
  { d with operators := Keyed.put d.operators field operators }

/-- With a relation, in place of an earlier one of its name.  Its name becomes a
field. -/
def relation (d : Declaration) (r : RelationDeclaration) : Declaration :=
  { d with
    fields := if d.hasField r.name then d.fields else d.fields ++ [r.name]
    relations := Keyed.put d.relations r.name r }

/-- A relation that is declared is a filterable field. -/
theorem hasField_relation (d : Declaration) (r : RelationDeclaration) :
    (d.relation r).hasField r.name = true := by
  show (if d.hasField r.name then d.fields else d.fields ++ [r.name]).contains r.name = true
  split
  · assumption
  · simp

/-! ## Tables and keys -/

/-- The table, given or derived. -/
def tableName (d : Declaration) : String := d.table.getD (Naming.table d.name)

def inspect (d : Declaration) : String :=
  Inspect.record "ModelDef"
    [("name", Inspect.text d.name), ("table", Inspect.option Inspect.text d.table),
     ("primary_key", Inspect.text d.primaryKey),
     ("fields", Inspect.list (d.fields.map Inspect.text)),
     ("operators", Inspect.map
       (d.operators.map fun e => (e.1, Inspect.list (e.2.map Inspect.text)))),
     ("relations", Inspect.map (d.relations.map fun e => (e.1, e.2.inspect)))]

end Declaration

/-- How rows of the owner are tied to rows of the related model. -/
def RelationDeclaration.join (r : RelationDeclaration) (owner related : Declaration) : Join :=
  match r.kind with
  | .oneToOne | .oneToMany =>
    .has r.name r.kind related.tableName
      (r.foreignKey.getD (Naming.reference owner.name))
      (r.ownerKey.getD owner.primaryKey)
  | .manyToOne =>
    .belongsTo r.name related.tableName
      (r.foreignKey.getD (Naming.reference r.name))
      (r.ownerKey.getD related.primaryKey)
  | .manyToMany =>
    .through r.name related.tableName
      ⟨r.linkTable.getD (Naming.linkTable owner.name related.name),
       r.linkSource.getD (Naming.reference owner.name),
       r.linkTarget.getD (Naming.reference related.name)⟩
      owner.primaryKey related.primaryKey

end Sift
