import Sift.Operator
import Sift.Operator.Arguments
import Sift.Operator.Pattern
import Sift.Condition
import Sift.Dialect

/-!
# Sift.Operator.Build

From an operator and its arguments to a condition.

An operator looks at its arguments first and at the dialect second, so that bad
arguments are refused in the same way everywhere.  Texts that may contain anything
only ever become parameters, never part of a template.
-/

namespace Sift

/-- What an operator is applied to. -/
structure Invocation where
  /-- The symbol the operator was called by. -/
  symbol : String
  column : String
  arguments : List Value
  dialect : Dialect

/-- A way to make a condition. -/
abbrev Strategy := Invocation → Except Fault Condition

namespace Invocation

/-- The arguments in the form that a check gives them. -/
def fit (inv : Invocation) (check : List Value → Except ArgumentFault α) : Except Fault α :=
  (check inv.arguments).mapError (.invalidArguments inv.symbol)

/-- The operator cannot be written in the dialect. -/
def unsupported (inv : Invocation) : Fault :=
  .unsupportedDialect inv.dialect.name inv.symbol

/-- A template with the column in front. -/
def afterColumn (inv : Invocation) (rest : String) (params : List Value) : Condition :=
  .raw inv.column (Condition.columnMark ++ rest) params

end Invocation

namespace Operator

/-! ## Equality of texts -/

/-- Equality that tells large letters from small ones. -/
def equalsExactly (inv : Invocation) (v : Value) : Except Fault Condition :=
  match inv.dialect with
  | .postgres | .sqlite => .ok (.compare inv.column .eq v)
  | .mysql => .ok (inv.afterColumn " = BINARY ?" [v])
  | .mssql => .ok (inv.afterColumn " COLLATE Latin1_General_CS_AS = ?" [v])
  | .other _ => .error inv.unsupported

/-! ## Patterns -/

/-- The word for a negated test, with the blank after it. -/
def notWord (negated : Bool) : String := if negated then "NOT " else ""

/-- A pattern that takes large and small letters for the same. -/
def matchesLoosely (inv : Invocation) (pattern : String) (negated : Bool) : Condition :=
  match inv.dialect with
  | .postgres => inv.afterColumn (" " ++ notWord negated ++ "ILIKE ?") [.text pattern]
  | .mysql | .sqlite | .mssql => .like inv.column pattern negated
  | .other _ =>
    .raw inv.column
      ("LOWER(" ++ Condition.columnMark ++ ") " ++ notWord negated ++ "LIKE LOWER(?)")
      [.text pattern]

/-- A pattern that tells large letters from small ones. -/
def matchesExactly (inv : Invocation) (pattern : String) (negated : Bool) :
    Except Fault Condition :=
  match inv.dialect with
  | .postgres => .ok (inv.afterColumn (" " ++ notWord negated ++ "LIKE ?") [.text pattern])
  | .mysql => .ok (inv.afterColumn (" " ++ notWord negated ++ "LIKE BINARY ?") [.text pattern])
  | .sqlite =>
    .ok (inv.afterColumn (" " ++ notWord negated ++ "GLOB ?")
      [.text (String.ofList (Pattern.toGlob pattern.toList))])
  | .mssql =>
    .ok (inv.afterColumn (" COLLATE Latin1_General_CS_AS " ++ notWord negated ++ "LIKE ?")
      [.text pattern])
  | .other _ => .error inv.unsupported

/-! ## All operators -/

/-- The condition of an operator on a column. -/
def build (op : Operator) (inv : Invocation) : Except Fault Condition := do
  match op with
  | .equals => return .compare inv.column .eq (← inv.fit Arguments.single)
  | .notEquals => return .compare inv.column .ne (← inv.fit Arguments.single)
  | .lessThan => return .compare inv.column .lt (← inv.fit Arguments.ordered)
  | .lessOrEqual => return .compare inv.column .le (← inv.fit Arguments.ordered)
  | .greaterThan => return .compare inv.column .gt (← inv.fit Arguments.ordered)
  | .greaterOrEqual => return .compare inv.column .ge (← inv.fit Arguments.ordered)
  | .equalsCaseSensitive => equalsExactly inv (← inv.fit Arguments.ordered)
  | .isIn => return .among inv.column (← inv.fit Arguments.choice) false
  | .notIn => return .among inv.column (← inv.fit Arguments.choice) true
  | .null => return .null inv.column !(← inv.fit Arguments.flag)
  | .notNull => return .null inv.column (← inv.fit Arguments.flag)
  | .between =>
    let (low, high) ← inv.fit Arguments.pair
    return .between inv.column low high false
  | .notBetween =>
    let (low, high) ← inv.fit Arguments.pair
    return .between inv.column low high true
  | .like => return matchesLoosely inv (← inv.fit Arguments.text) false
  | .likeCaseSensitive => matchesExactly inv (← inv.fit Arguments.text) false
  | .contains => return matchesLoosely inv ("%" ++ (← inv.fit Arguments.text) ++ "%") false
  | .notContains => return matchesLoosely inv ("%" ++ (← inv.fit Arguments.text) ++ "%") true
  | .containsCaseSensitive =>
    matchesExactly inv ("%" ++ (← inv.fit Arguments.text) ++ "%") false
  | .notContainsCaseSensitive =>
    matchesExactly inv ("%" ++ (← inv.fit Arguments.text) ++ "%") true
  | .startsWith => return matchesLoosely inv ((← inv.fit Arguments.text) ++ "%") false
  | .startsWithCaseSensitive => matchesExactly inv ((← inv.fit Arguments.text) ++ "%") false
  | .endsWith => return matchesLoosely inv ("%" ++ (← inv.fit Arguments.text)) false
  | .endsWithCaseSensitive => matchesExactly inv ("%" ++ (← inv.fit Arguments.text)) false

end Operator

end Sift
