import Sift.Value

/-!
# Sift.Fault

Why a filter is refused.  Every fault has a cause, a message, a stable code, and
where it helps the list of what would have been allowed.

Codes below `P7000` are faults of the client's filter, the others of the set-up.
-/

namespace Sift

/-! ## Arguments -/

/-- Why the arguments of an operator are refused. -/
inductive ArgumentFault where
  /-- A scalar was expected. -/
  | notScalar (kind : Value.Kind)
  /-- There is no value. -/
  | missing
  /-- There is more than one value. -/
  | notSingle (count : Nat)
  /-- Null has no order. -/
  | nullOrder
  /-- There is no value to choose from. -/
  | noChoice
  /-- An item is null or no scalar. -/
  | badItem (kind : Value.Kind)
  /-- A bound is null or no scalar. -/
  | badBounds
  /-- There are not two values. -/
  | notPair (count : Nat)
  /-- There is more than one flag. -/
  | manyFlags (count : Nat)
  /-- A text that names no flag. -/
  | flagText (text : String)
  /-- A value that is no flag. -/
  | notFlag (kind : Value.Kind)
  /-- A value that is no text. -/
  | notText (kind : Value.Kind)
  /-- A group stands where values belong. -/
  | nested
  /-- A host's own reason. -/
  | other (reason : String)
deriving DecidableEq, Repr

def ArgumentFault.reason : ArgumentFault → String
  | .notScalar kind => "expected a scalar, got " ++ kind.name
  | .missing => "expected a value, got none"
  | .notSingle count => "expected a single value, got " ++ toString count
  | .nullOrder => "null cannot be compared"
  | .noChoice => "expected at least one value"
  | .badItem kind => "list items must be scalars, got " ++ kind.name
  | .badBounds => "bounds must be non-null scalars"
  | .notPair count => "expected exactly two values, got " ++ toString count
  | .manyFlags count => "expected at most one value, got " ++ toString count
  | .flagText text => "expected a boolean, got `" ++ text ++ "`"
  | .notFlag kind => "expected a boolean, got " ++ kind.name
  | .notText kind => "expected text, got " ++ kind.name
  | .nested => "expected a value or a list of values, got a nested filter"
  | .other reason => reason

/-! ## Filters -/

/-- Why a filter or a change to the registry is refused. -/
inductive Fault where
  /-- No operator is reachable in the filter; the registered symbols are given. -/
  | noOperator (known : List String)
  /-- The field or relation is not filterable on the model. -/
  | fieldNotSupported (field model : String) (allowed : List String)
  /-- The model does not allow the operator, or the nested key, on the field. -/
  | operatorNotSupported (field operator : String) (allowed : List String)
  /-- The operator cannot be written in the dialect. -/
  | unsupportedDialect (dialect operator : String)
  /-- The operator does not take these arguments. -/
  | invalidArguments (operator : String) (fault : ArgumentFault)
  /-- The symbol is taken. -/
  | duplicateOperator (symbol : String)
  /-- The symbol is not registered. -/
  | unknownOperator (symbol : String)
deriving DecidableEq, Repr

namespace Fault

def message : Fault → String
  | .noOperator known =>
    "no filter operator found; expected one of: " ++ String.intercalate ", " known
  | .fieldNotSupported field model allowed =>
    "field `" ++ field ++ "` is not filterable on `" ++ model ++ "`; allowed fields: "
      ++ String.intercalate ", " allowed
  | .operatorNotSupported field operator allowed =>
    "operator `" ++ operator ++ "` is not allowed on field `" ++ field
      ++ "`; allowed operators: " ++ String.intercalate ", " allowed
  | .unsupportedDialect dialect operator =>
    "operator `" ++ operator ++ "` is not supported by the `" ++ dialect ++ "` dialect"
  | .invalidArguments operator fault =>
    "invalid arguments for `" ++ operator ++ "`: " ++ fault.reason
  | .duplicateOperator symbol => "operator `" ++ symbol ++ "` is already registered"
  | .unknownOperator symbol => "operator `" ++ symbol ++ "` is not registered"

def number : Fault → Nat
  | .noOperator _ => 1001
  | .fieldNotSupported _ _ _ => 1002
  | .operatorNotSupported _ _ _ => 1003
  | .invalidArguments _ _ => 5003
  | .duplicateOperator _ => 7001
  | .unknownOperator _ => 7002
  | .unsupportedDialect _ _ => 7003

def code (f : Fault) : String := "P" ++ toString f.number

def description : Fault → String
  | .noOperator _ => "No filter operator found"
  | .fieldNotSupported _ _ _ => "Field is not filterable"
  | .operatorNotSupported _ _ _ => "Operator not allowed on field"
  | .invalidArguments _ _ => "Invalid operator arguments"
  | .duplicateOperator _ => "Duplicate operator"
  | .unknownOperator _ => "Unknown operator"
  | .unsupportedDialect _ _ => "Unsupported dialect"

def documentation (f : Fault) : String := "https://filtra.rs/docs/errors/" ++ f.code

/-- Whether the fault lies with the client's filter rather than with the set-up. -/
def isClientFault (f : Fault) : Bool := f.number < 7000

/-- What would have been allowed. -/
def allowed : Fault → List String
  | .noOperator known => known
  | .fieldNotSupported _ _ allowed | .operatorNotSupported _ _ allowed => allowed
  | _ => []

def help? : Fault → Option String
  | .noOperator _ =>
    some ("Wrap the value in an operator, e.g. "
      ++ "\x7b\"name\": \x7b\"$eq\": \"value\"\x7d\x7d")
  | .fieldNotSupported _ model _ =>
    some ("Add the field to the filterable fields of `" ++ model
      ++ "` or use one of the allowed fields")
  | .operatorNotSupported field _ _ =>
    some ("Use one of the operators allowed on `" ++ field ++ "`")
  | .unsupportedDialect _ operator =>
    some ("Remove `" ++ operator
      ++ "` from the registry for this engine or use its case-insensitive variant")
  | .invalidArguments _ _ => none
  | .duplicateOperator _ => some "Register each operator symbol only once"
  | .unknownOperator _ => some "Check the symbol spelling; lookups are case-sensitive"

end Fault

end Sift
