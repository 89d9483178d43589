import Sift.Catalog.Declaration
import Sift.Catalog.Problem
import Sift.Model
import Sift.Registry

/-!
# Sift.Catalog

Models that refer to each other by name, checked together.  The names are looked up
once, when a catalog is built; from then on a relation leads to a model by its
position in the catalog, which its type keeps in range.

Main statements:

* `name_of_find?` — a model is found under its own name;
* `links_ofChecked` — the relations of a model are those that it declares.
-/

namespace Sift

/-! ## Checking declarations -/

namespace Declaration

/-- The fields that occur earlier in the list, once for each repetition. -/
def repeatedFields (before : List String) : List String → List String
  | [] => []
  | field :: rest =>
    (if before.contains field then [field] else []) ++ repeatedFields (before ++ [field]) rest

/-- What is wrong with a declaration among others. -/
def problems (d : Declaration) (all : List Declaration) : List Problem :=
  let names := all.map Declaration.name
  (repeatedFields [] d.fields).map (.invalidField d.name · .repeated)
    ++ (((Keyed.keys d.operators).mergeSort (fun a b => decide (a ≤ b))).filter
          (!d.hasField ·)).map (.invalidField d.name · .restrictedOnly)
    ++ d.relations.filterMap fun e =>
        if names.contains e.2.model then none
        else some (.invalidRelation d.name e.1 (.unknownModel e.2.model))

/-- The first declaration of each name. -/
def firsts : List Declaration → List Declaration → List Declaration
  | kept, [] => kept
  | kept, d :: ds =>
    if (kept.map Declaration.name).contains d.name then firsts kept ds
    else firsts (kept ++ [d]) ds

/-- The names that are declared again, once for each repetition. -/
def duplicates (names : List String) : List Declaration → List Problem
  | [] => []
  | d :: ds =>
    if names.contains d.name then .duplicate "model" d.name :: duplicates names ds
    else duplicates (names ++ [d.name]) ds

end Declaration

/-! ## Catalogs -/

/-- A relation whose model has been looked up among `n` models. -/
structure Catalog.Link (n : Nat) where
  name : String
  target : Fin n
  join : Join

/-- Declarations of models, with the relations that lead from each. -/
structure Catalog where
  declarations : List Declaration
  links : Vector (List (Catalog.Link declarations.length)) declarations.length

namespace Catalog

def position? (ds : List Declaration) (name : String) : Option (Fin ds.length) :=
  ds.findFinIdx? (·.name = name)

/-- The relations that lead from a model, as far as their models are declared. -/
def linksOf (ds : List Declaration) (d : Declaration) : List (Link ds.length) :=
  d.relations.filterMap fun e =>
    (position? ds e.2.model).map fun i => ⟨e.1, i, e.2.join d ds[i]⟩

/-- The catalog of declarations that have been checked. -/
def ofChecked (ds : List Declaration) : Catalog :=
  ⟨ds, Vector.ofFn fun i => linksOf ds ds[i]⟩

/-- The catalog of declarations; every problem with them is reported. -/
def build (ds : List Declaration) : Reported Problem Catalog := do
  let firsts := Declaration.firsts [] ds
  Reported.ofExcept <| Problem.check <|
    Declaration.duplicates [] ds ++ firsts.flatMap (·.problems firsts)
  Reported.report (.builtCatalog firsts.length)
  return ofChecked firsts

/-! ## Models of a catalog -/

/-- A model, by its position. -/
abbrev Model (c : Catalog) := Fin c.declarations.length

def declaration (c : Catalog) (m : c.Model) : Declaration := c.declarations[m]

/-- The model of a name. -/
def find? (c : Catalog) (name : String) : Option c.Model := position? c.declarations name

def names (c : Catalog) : List String := c.declarations.map Declaration.name

def size (c : Catalog) : Nat := c.declarations.length

def isEmpty (c : Catalog) : Bool := c.declarations.isEmpty

/-- What may be filtered on the models of a catalog. -/
def graph (c : Catalog) : ModelGraph c.Model where
  name m := (c.declaration m).name
  fields m := (c.declaration m).fields
  allowed m field := Keyed.get? (c.declaration m).operators field
  relation m name := ((c.links.get m).find? (·.name = name)).map fun l => (l.target, l.join)

/-- The restrictions to operators that are not registered. -/
def unknownOperators (c : Catalog) (r : Registry) : List Problem :=
  c.declarations.flatMap fun d =>
    d.operators.flatMap fun e =>
      (e.2.filter (!r.contains ·)).map fun symbol =>
        .invalidField d.name e.1 (.unknownOperator symbol)

/-- Every restriction names registered operators only. -/
def checkOperators (c : Catalog) (r : Registry) : Except Problem Unit :=
  Problem.check (c.unknownOperators r)

def inspect (c : Catalog) : String :=
  Inspect.map (c.declarations.map fun d => (d.name, d.inspect))

/-! ## Laws -/

/-- A model is found under its own name. -/
theorem name_of_find? {c : Catalog} {name : String} {m : c.Model} (h : c.find? name = some m) :
    c.graph.name m = name := by
  have := (List.findFinIdx?_eq_some_iff.mp h).1
  exact of_decide_eq_true this

/-- The relations that lead from a model are those that it declares to models of the
catalog. -/
theorem links_ofChecked (ds : List Declaration) (m : Fin ds.length) :
    (ofChecked ds).links.get m = linksOf ds ds[m] :=
  Vector.getElem_ofFn m.isLt

end Catalog

end Sift
