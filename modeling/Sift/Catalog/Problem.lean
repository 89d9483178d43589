import Sift.Fault

/-!
# Sift.Catalog.Problem

What can be wrong with the set-up of an engine: its configuration, its models, or a
filter it is asked to apply.  Problems that are found together are reported
together.
-/

namespace Sift

/-- What is wrong with a field. -/
inductive FieldProblem where
  /-- It is declared more than once. -/
  | repeated
  /-- Its operators are restricted, but it is not declared. -/
  | restrictedOnly
  /-- It is restricted to an operator that is not registered. -/
  | unknownOperator (symbol : String)
  /-- In a host's own words. -/
  | other (message : String)
deriving DecidableEq, Repr

def FieldProblem.message : FieldProblem → String
  | .repeated => "declared more than once"
  | .restrictedOnly => "operator restriction on an undeclared field"
  | .unknownOperator symbol => "unknown operator `" ++ symbol ++ "`"
  | .other message => message

/-- What is wrong with a relation. -/
inductive RelationProblem where
  /-- It leads to a model that is not declared. -/
  | unknownModel (name : String)
  /-- Its kind has no such name. -/
  | unknownKind (name : String)
  /-- In a host's own words. -/
  | other (message : String)
deriving DecidableEq, Repr

def RelationProblem.message : RelationProblem → String
  | .unknownModel name => "unknown model `" ++ name ++ "`"
  | .unknownKind name => "unknown relation kind `" ++ name ++ "`"
  | .other message => message

/-- What is wrong with the set-up of an engine. -/
inductive Problem where
  /-- A file cannot be read. -/
  | unreadable (path : String)
  /-- A configuration is no TOML document, or does not have the expected settings. -/
  | malformed
  /-- The configuration is inconsistent. -/
  | configuration (message : String)
  | invalidModel (name message : String)
  | invalidField (model field : String) (problem : FieldProblem)
  | invalidRelation (model relation : String) (problem : RelationProblem)
  /-- Two things of a kind have one name. -/
  | duplicate (kind name : String)
  | unknownModel (name : String)
  /-- A filter is refused. -/
  | filter (fault : Fault)
  /-- So many problems were found together. -/
  | several (count : Nat) (problems : List Problem)
deriving Repr

namespace Problem

def message : Problem → String
  | .unreadable path => "failed to read file: " ++ path
  | .malformed => "failed to parse TOML"
  | .configuration message => "configuration error: " ++ message
  | .invalidModel name message => "invalid model `" ++ name ++ "`: " ++ message
  | .invalidField model field problem =>
    "invalid field `" ++ model ++ "." ++ field ++ "`: " ++ problem.message
  | .invalidRelation model relation problem =>
    "invalid relation `" ++ model ++ "." ++ relation ++ "`: " ++ problem.message
  | .duplicate kind name => "duplicate " ++ kind ++ " `" ++ name ++ "`"
  | .unknownModel name => "unknown model `" ++ name ++ "`"
  | .filter fault => fault.message
  | .several count _ => "schema validation failed with " ++ toString count ++ " error(s)"

def code : Problem → String
  | .unreadable _ => "filtra::schema::io_error"
  | .malformed => "filtra::schema::toml_error"
  | .configuration _ => "filtra::schema::config_error"
  | .invalidModel _ _ => "filtra::schema::invalid_model"
  | .invalidField _ _ _ => "filtra::schema::invalid_field"
  | .invalidRelation _ _ _ => "filtra::schema::invalid_relation"
  | .duplicate _ _ => "filtra::schema::duplicate"
  | .unknownModel _ => "filtra::schema::unknown_model"
  | .filter _ => "filtra::schema::filter"
  | .several _ _ => "filtra::schema::validation_failed"

def help? : Problem → Option String
  | .unknownModel name =>
    some ("define it under [models." ++ name ++ "] or check the spelling")
  | _ => none

/-- No problem, one problem as itself, or several together. -/
def collect? : List Problem → Option Problem
  | [] => none
  | [p] => some p
  | ps => some (.several ps.length ps)

/-- Success, if there is no problem. -/
def check (problems : List Problem) : Except Problem Unit :=
  match collect? problems with
  | some p => .error p
  | none => .ok ()

end Problem

end Sift
