import Sift.Operator

/-!
# Sift.Event

What an engine reports while it works.  A computation that reports is a value: its
events in order, and its outcome.  What was reported before a failure stays.
-/

namespace Sift

/-- How much an event matters. -/
inductive Level where
  | trace | debug | info
deriving DecidableEq, Repr

/-- Something worth reporting. -/
inductive Event where
  /-- An operator has been registered. -/
  | registered (symbol : String) (kind : Option Operator)
  /-- A top-level key of a filter is about to be resolved. -/
  | resolving (model field dialect : String)
  /-- An operator of a filter has become a condition under `depth` relations. -/
  | builtLeaf (column operator : String) (depth : Nat)
  /-- A catalog of models has been built. -/
  | builtCatalog (models : Nat)
  /-- An engine has been assembled from a configuration. -/
  | engineReady (models operators : Nat) (dialect : String)
  /-- A filter is about to be applied to a query over a model. -/
  | applying (model field : String)
deriving DecidableEq, Repr

namespace Event

def level : Event → Level
  | .builtLeaf _ _ _ => .trace
  | .engineReady _ _ _ => .info
  | _ => .debug

def message : Event → String
  | .registered _ _ => "registered filter operator"
  | .resolving _ _ _ => "resolving filter"
  | .builtLeaf _ _ _ => "built leaf predicate"
  | .builtCatalog _ => "schema built"
  | .engineReady _ _ _ => "filter engine ready"
  | .applying _ _ => "applying filter"

def particulars : Event → List (String × String)
  | .registered symbol kind =>
    [("symbol", symbol),
     ("kind", match kind with | some op => "Some(" ++ op.label ++ ")" | none => "None")]
  | .resolving model field dialect => [("model", model), ("field", field), ("dialect", dialect)]
  | .builtLeaf column operator depth =>
    [("column", column), ("operator", operator), ("depth", toString depth)]
  | .builtCatalog models => [("models", toString models)]
  | .engineReady models operators dialect =>
    [("models", toString models), ("operators", toString operators), ("dialect", dialect)]
  | .applying model field => [("model", model), ("field", field)]

end Event

/-- A computation that reports events and may fail. -/
structure Reported (ε α : Type) where
  events : List Event
  outcome : Except ε α

namespace Reported

variable {ε α β : Type}

/-- Go on with the outcome, if there is one. -/
def andThen (x : Reported ε α) (next : α → Reported ε β) : Reported ε β :=
  match x.outcome with
  | .ok a => ⟨x.events ++ (next a).events, (next a).outcome⟩
  | .error e => ⟨x.events, .error e⟩

instance : Monad (Reported ε) where
  pure a := ⟨[], .ok a⟩
  bind := andThen

def ofExcept (r : Except ε α) : Reported ε α := ⟨[], r⟩

def report (e : Event) : Reported ε Unit := ⟨[e], .ok ()⟩

def mapError (f : ε → ε') (x : Reported ε α) : Reported ε' α :=
  ⟨x.events, x.outcome.mapError f⟩

instance : MonadExceptOf ε (Reported ε) where
  throw e := ⟨[], .error e⟩
  tryCatch x handle :=
    match x.outcome with
    | .ok _ => x
    | .error e => ⟨x.events ++ (handle e).events, (handle e).outcome⟩

end Reported

end Sift
