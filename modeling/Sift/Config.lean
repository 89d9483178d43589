import Sift.Catalog
import Sift.Config.Expansion
import Sift.Logging
import Sift.Toml.Reader

/-!
# Sift.Config

Configurations of an engine: its dialect and operators, whether filters are traced,
the models, and named environments that override some of this.

A configuration is read from a text in which references to variables have been
replaced.  Settings without a meaning are refused everywhere.
-/

namespace Sift

namespace Config

/-- A relation as it is configured.  The kind is checked when models are declared. -/
structure Relation where
  model : String
  kind : String
  foreignKey : Option String
  ownerKey : Option String
  linkTable : Option String
  linkSource : Option String
  linkTarget : Option String
deriving DecidableEq, Repr

/-- A model as it is configured. -/
structure Model where
  table : Option String
  primaryKey : String
  fields : List String
  operators : Keyed (List String)
  relations : Keyed Relation
deriving DecidableEq, Repr

/-- The settings of the engine that an environment overrides. -/
structure EngineOverride where
  dialect : Option String
  operators : Option (List String)
deriving DecidableEq, Repr

/-- The settings for debugging that an environment overrides. -/
structure DebugOverride where
  traceFilters : Option Bool
deriving DecidableEq, Repr

/-- What an environment overrides. -/
structure Override where
  engine : Option EngineOverride
  debug : Option DebugOverride
deriving DecidableEq, Repr

end Config

/-- The configuration of an engine. -/
structure Config where
  dialectName : String
  /-- The operators to be enabled; all built-in ones if not set. -/
  operators : Option (List String)
  traceFilters : Bool
  models : Keyed Config.Model
  environments : Keyed Config.Override
deriving DecidableEq, Repr

namespace Config

/-- The dialect when none is set. -/
def defaultDialect : String := "postgresql"

def default : Config := ⟨defaultDialect, none, false, [], []⟩

/-! ## Reading -/

section Reading

open Toml

/-- A relation under a model. -/
def relation? (t : Toml) : Option Relation := do
  match ← t.settings? ["model", "kind", "foreign_key", "owner_key", "join_table",
      "join_local_key", "join_foreign_key"] 2 with
  | [model, kind, foreignKey, ownerKey, linkTable, linkSource, linkTarget] =>
    return {
      model := ← required? text? model
      kind := ← required? text? kind
      foreignKey := ← optional? text? foreignKey
      ownerKey := ← optional? text? ownerKey
      linkTable := ← optional? text? linkTable
      linkSource := ← optional? text? linkSource
      linkTarget := ← optional? text? linkTarget }
  | _ => none

def model? (t : Toml) : Option Model := do
  match ← t.settings? ["table", "primary_key", "fields", "operators", "relations"] 0 with
  | [tableName, primaryKey, fields, operators, relations] =>
    return {
      table := ← optional? text? tableName
      primaryKey := ← orElse? "id" text? primaryKey
      fields := ← orElse? [] texts? fields
      operators := ← orElse? [] (tableOf? texts?) operators
      relations := ← orElse? [] (tableOf? relation?) relations }
  | _ => none

def engineOverride? (t : Toml) : Option EngineOverride := do
  match ← t.settings? ["dialect", "operators"] 2 with
  | [dialect, operators] =>
    return ⟨← optional? text? dialect, ← optional? texts? operators⟩
  | _ => none

def debugOverride? (t : Toml) : Option DebugOverride := do
  match ← t.settings? ["log_filters"] 1 with
  | [traceFilters] => return ⟨← optional? flag? traceFilters⟩
  | _ => none

def override? (t : Toml) : Option Override := do
  match ← t.settings? ["engine", "debug"] 0 with
  | [engine, debug] =>
    return ⟨← optional? engineOverride? engine, ← optional? debugOverride? debug⟩
  | _ => none

/-- The dialect and the operators of the engine. -/
def engine? (t : Toml) : Option (String × Option (List String)) := do
  match ← t.settings? ["dialect", "operators"] 0 with
  | [dialect, operators] =>
    return (← orElse? defaultDialect text? dialect, ← optional? texts? operators)
  | _ => none

/-- Whether filters are traced. -/
def debug? (t : Toml) : Option Bool := do
  match ← t.settings? ["log_filters"] 0 with
  | [traceFilters] => orElse? false flag? traceFilters
  | _ => none

def ofToml? (t : Toml) : Option Config := do
  match ← t.settings? ["engine", "debug", "models", "environments"] 0 with
  | [engine, debug, models, environments] =>
    let (dialectName, operators) ← orElse? (defaultDialect, none) engine? engine
    return {
      dialectName
      operators
      traceFilters := ← orElse? false debug? debug
      models := ← orElse? [] (tableOf? model?) models
      environments := ← orElse? [] (tableOf? override?) environments }
  | _ => none

end Reading

/-- The configuration that a text writes, in an environment. -/
def ofText (env : Environment) (text : String) : Except Problem Config :=
  match (Toml.read (Expansion.expand env text)).bind ofToml? with
  | some config => .ok config
  | none => .error .malformed

/-- The configuration in a file, given its content if it could be read. -/
def ofFile (env : Environment) (path : String) (content : Option String) :
    Except Problem Config :=
  match content with
  | some text => ofText env text
  | none => .error (.unreadable path)

/-! ## Environments -/

/-- The configuration with what an override sets. -/
def override (c : Config) (o : Override) : Config :=
  { c with
    dialectName := (o.engine.bind (·.dialect)).getD c.dialectName
    operators := (o.engine.bind (·.operators)).orElse fun _ => c.operators
    traceFilters := (o.debug.bind (·.traceFilters)).getD c.traceFilters }

/-- The configuration in a named environment, which is used up by this.  An unknown
name changes nothing. -/
def inEnvironment (c : Config) (name : String) : Config :=
  match Keyed.get? c.environments name with
  | none => c
  | some o => { c.override o with environments := c.environments.filter (·.1 ≠ name) }

/-! ## What is configured -/

def dialect (c : Config) : Dialect := .ofName c.dialectName

/-- The built-in operators, or those of them that are enabled. -/
def registry (c : Config) : Except Fault Registry :=
  match c.operators with
  | none => .ok .defaults
  | some symbols => Registry.defaults.only (symbols.map .symbol)

/-- A configured relation as a declaration. -/
def Relation.declare (model name : String) (r : Relation) :
    Except Problem RelationDeclaration :=
  match RelationKind.ofName? r.kind with
  | none => .error (.invalidRelation model name (.unknownKind r.kind))
  | some kind =>
    .ok ⟨name, r.model, kind, r.foreignKey, r.ownerKey, r.linkTable, r.linkSource,
      r.linkTarget⟩

/-- A configured model as a declaration. -/
def Model.declare (name : String) (m : Model) : Except Problem Declaration := do
  let plain : Declaration :=
    { (Declaration.new name).addFields m.fields with
      table := m.table
      primaryKey := m.primaryKey
      operators := m.operators }
  m.relations.foldlM (fun d e => return d.relation (← e.2.declare name e.1)) plain

def declarations (c : Config) : Except Problem (List Declaration) :=
  c.models.mapM fun e => e.2.declare e.1

def catalog (c : Config) : Reported Problem Catalog := do
  Catalog.build (← Reported.ofExcept c.declarations)

/-- The settings for logging once the configuration is in force: it can turn the
tracing of filters on, but not off. -/
def applyLogging (c : Config) (s : Logging.Settings) : Logging.Settings :=
  if c.traceFilters then s.setTracing true else s

end Config

end Sift
