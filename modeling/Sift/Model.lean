import Sift.Scope

/-!
# Sift.Model

What may be filtered on the models of a host.  A `ModelGraph` answers four questions
about each model of a type `M`: its name, its filterable fields, which operators a
field is restricted to, and where a relation leads.  Relations may lead in circles.
-/

namespace Sift

/-- The models of a host and the relations between them. -/
structure ModelGraph (M : Type) where
  /-- The name in messages. -/
  name : M → String
  /-- The filterable fields and relations. -/
  fields : M → List String
  /-- The operators allowed on a field; `none` if it is not restricted. -/
  allowed : M → String → Option (List String)
  /-- The model a relation leads to, and how its rows are tied to those of the first
  model; `none` if there is no such relation. -/
  relation : M → String → Option (M × Join)

namespace ModelGraph

variable {M : Type}

def isFilterable (g : ModelGraph M) (m : M) (field : String) : Bool :=
  (g.fields m).contains field

/-- The fault of asking for a field that the model does not have. -/
def noField (g : ModelGraph M) (m : M) (field : String) : Fault :=
  .fieldNotSupported field (g.name m) (g.fields m)

/-- The field may be filtered. -/
def checkField (g : ModelGraph M) (m : M) (field : String) : Except Fault Unit :=
  if g.isFilterable m field then .ok () else .error (g.noField m field)

/-- A field that is restricted allows the operator, or the nested key. -/
def checkOperator (g : ModelGraph M) (m : M) (field operator : String) : Except Fault Unit :=
  match g.allowed m field with
  | none => .ok ()
  | some allowed =>
    if allowed.contains operator then .ok ()
    else .error (.operatorNotSupported field operator allowed)

/-- Ask for a row related by a relation of the model. -/
def havingRelated (g : ModelGraph M) (m : M) (relation : String)
    (inside : Scope.Builder Unit) : Scope.Builder Unit :=
  match g.relation m relation with
  | none => throw (g.noField m relation)
  | some (_, join) => Scope.Builder.related join inside

def inspectRelated (g : ModelGraph M) (target : M × Join) : String :=
  Inspect.record "RelatedModel"
    [("model", Inspect.text (g.name target.1)), ("join", target.2.inspect)]

end ModelGraph

end Sift
