import Sift.Inspect

/-!
# Sift.Relation

How the rows of one table relate to the rows of another.

For a direct relation a related row has in `relatedColumn` what the parent row has
in `parentColumn`.  A relation through a link table relates two rows when the link
table has a row with the parent's value in its source column and the related row's
in its target column.
-/

namespace Sift

/-- How many rows stand on either side of a relation. -/
inductive RelationKind where
  | oneToOne
  | oneToMany
  | manyToOne
  | manyToMany
deriving DecidableEq, Repr

namespace RelationKind

def isMany : RelationKind → Bool
  | .oneToMany | .manyToMany => true
  | _ => false

def isOne : RelationKind → Bool
  | .oneToOne | .manyToOne => true
  | _ => false

def name : RelationKind → String
  | .oneToOne => "one_to_one"
  | .oneToMany => "one_to_many"
  | .manyToOne => "many_to_one"
  | .manyToMany => "many_to_many"

/-- The kind of a name, which says how many or who holds the key. -/
def ofName? : String → Option RelationKind
  | "one_to_one" | "has_one" => some .oneToOne
  | "one_to_many" | "has_many" => some .oneToMany
  | "many_to_one" | "belongs_to" => some .manyToOne
  | "many_to_many" | "belongs_to_many" => some .manyToMany
  | _ => none

theorem ofName?_name (k : RelationKind) : ofName? k.name = some k := by cases k <;> rfl

def inspect : RelationKind → String
  | .oneToOne => "OneToOne"
  | .oneToMany => "OneToMany"
  | .manyToOne => "ManyToOne"
  | .manyToMany => "ManyToMany"

end RelationKind

/-- A table whose rows link a source row to a target row. -/
structure LinkTable where
  table : String
  sourceColumn : String
  targetColumn : String
deriving DecidableEq, Repr

/-- How a parent row is tied to its related rows. -/
structure Join where
  /-- The name of the relation on the parent's model. -/
  name : String
  kind : RelationKind
  relatedTable : String
  parentColumn : String
  relatedColumn : String
  link : Option LinkTable
deriving DecidableEq, Repr

namespace Join

/-- The related table holds the parent's key. -/
def has (name : String) (kind : RelationKind) (relatedTable foreignKey ownerKey : String) : Join :=
  { name, kind, relatedTable, parentColumn := ownerKey, relatedColumn := foreignKey,
    link := none }

/-- The parent's table holds the related row's key. -/
def belongsTo (name relatedTable foreignKey ownerKey : String) : Join :=
  { name, kind := .manyToOne, relatedTable, parentColumn := foreignKey,
    relatedColumn := ownerKey, link := none }

/-- A link table holds both keys. -/
def through (name relatedTable : String) (link : LinkTable) (parentKey relatedKey : String) :
    Join :=
  { name, kind := .manyToMany, relatedTable, parentColumn := parentKey,
    relatedColumn := relatedKey, link := some link }

def inspect (j : Join) : String :=
  Inspect.record "RelationJoin"
    [("name", Inspect.text j.name),
     ("relation_type", j.kind.inspect),
     ("related_table", Inspect.text j.relatedTable),
     ("parent_column", Inspect.text j.parentColumn),
     ("related_column", Inspect.text j.relatedColumn),
     ("join_table", Inspect.option
       (fun l => Inspect.record "JoinTableSpec"
         [("table_name", Inspect.text l.table),
          ("source_column", Inspect.text l.sourceColumn),
          ("target_column", Inspect.text l.targetColumn)]) j.link)]

end Join

end Sift
