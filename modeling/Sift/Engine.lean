import Sift.Config
import Sift.Resolver
import Sift.Scope.Render

/-!
# Sift.Engine

A resolver, a catalog and a dialect that go together: every operator that the catalog
restricts a field to is one that the resolver knows.
-/

namespace Sift

/-- A ready engine. -/
structure Engine where
  resolver : Resolver
  catalog : Catalog
  dialect : Dialect

namespace Engine

/-! ## Assembling -/

/-- Put an engine together, if its parts fit. -/
def new (resolver : Resolver) (catalog : Catalog) (dialect : Dialect) : Except Problem Engine := do
  catalog.checkOperators resolver.registry
  return ⟨resolver, catalog, dialect⟩

/-- The engine of a configuration.  Filters are traced if debugging is on once the
configuration is in force. -/
def ofConfig (settings : Logging.Settings) (config : Config) : Reported Problem Engine := do
  let registry ← Reported.ofExcept (config.registry.mapError .filter)
  let catalog ← config.catalog
  let tracing := (config.applyLogging settings).debugging
  let engine ← Reported.ofExcept (new ⟨registry, tracing⟩ catalog config.dialect)
  Reported.report (.engineReady catalog.size registry.size config.dialect.name)
  return engine

/-! ## Queries -/

def model (e : Engine) (name : String) : Except Problem e.catalog.Model :=
  match e.catalog.find? name with
  | some m => .ok m
  | none => .error (.unknownModel name)

/-- A query over all rows of a model. -/
def query (e : Engine) (name : String) : Except Problem Scope := do
  let m ← e.model name
  return .root e.dialect (e.catalog.declaration m).tableName

/-- What became of a scope: what was reported, and the outcome with the scope as it is
now. -/
structure Applied where
  events : List Event
  outcome : Except Problem Unit
  scope : Scope

/-- An unknown model leaves the scope alone. -/
def Applied.refused (s : Scope) (p : Problem) : Applied := ⟨[], .error p, s⟩

/-- What became of a scope under a resolver, after some events. -/
def Applied.ofResolver (before : List Event) (a : Resolver.Applied) : Applied :=
  ⟨before ++ a.events, a.outcome.mapError .filter, a.scope⟩

/-- Apply one top-level key of a filter to a query over a model. -/
def apply (e : Engine) (name : String) (s : Scope) (field : String) (f : Filter) : Applied :=
  match e.model name with
  | .error p => .refused s p
  | .ok m =>
    .ofResolver [.applying name field] (e.resolver.apply e.catalog.graph m s field f)

/-- Apply all keys of a filter to a query over a model. -/
def applyAll (e : Engine) (name : String) (s : Scope) (f : Filter) : Applied :=
  match e.model name with
  | .error p => .refused s p
  | .ok m => .ofResolver [] (e.resolver.applyAll e.catalog.graph m s f)

/-- The query over a model that a filter asks for. -/
def filter (e : Engine) (name : String) (f : Filter) : Reported Problem Scope := do
  let s ← Reported.ofExcept (e.query name)
  let a := e.applyAll name s f
  ⟨a.events, a.outcome.map fun _ => a.scope⟩

end Engine

end Sift
