import Sift.Fault
import Sift.Text.Case

/-!
# Sift.Operator.Arguments

What the operators ask of their arguments.  Each check gives the arguments in the
form in which the condition needs them, or the fault.
-/

namespace Sift.Arguments

open Decimal (Layout)

/-- Exactly one scalar. -/
def single : List Value → Except ArgumentFault Value
  | [v] => if v.isScalar then .ok v else .error (.notScalar v.kind)
  | [] => .error .missing
  | vs => .error (.notSingle vs.length)

/-- Exactly one scalar other than null. -/
def ordered (vs : List Value) : Except ArgumentFault Value := do
  let v ← single vs
  if v.isNull then .error .nullOrder else .ok v

/-- One or more scalars other than null. -/
def choice (vs : List Value) : Except ArgumentFault (List Value) :=
  if vs.isEmpty then
    .error .noChoice
  else
    match vs.find? (!·.isPresent) with
    | some v => .error (.badItem v.kind)
    | none => .ok vs

/-- Exactly two scalars other than null. -/
def pair : List Value → Except ArgumentFault (Value × Value)
  | [low, high] =>
    if low.isPresent && high.isPresent then .ok (low, high) else .error .badBounds
  | vs => .error (.notPair vs.length)

/-- The flag that a text spells, in letters of any case. -/
def flagOfText? (s : String) : Option Bool :=
  let lower := Text.lowercase s
  if ["true", "1", "yes"].contains lower then some true
  else if ["false", "0", "no"].contains lower then some false
  else none

/-- The flag in a value: nothing said is a yes. -/
def flagOf (v : Value) : Except ArgumentFault Bool :=
  match v with
  | .null => .ok true
  | .bool b => .ok b
  | .text s =>
    match flagOfText? s with
    | some b => .ok b
    | none => .error (.flagText s)
  | .int n => if n = 1 then .ok true else if n = 0 then .ok false else .error (.notFlag v.kind)
  | _ => .error (.notFlag v.kind)

/-- At most one flag; none at all is a yes. -/
def flag : List Value → Except ArgumentFault Bool
  | [] => .ok true
  | [v] => flagOf v
  | vs => .error (.manyFlags vs.length)

/-- Exactly one text or number, as text. -/
def text (vs : List Value) : Except ArgumentFault String := do
  match ← ordered vs with
  | .text s => .ok s
  | .int n => .ok (toString n.toInt)
  | .float x => .ok (Layout.plain.write x)
  | v => .error (.notText v.kind)

end Sift.Arguments
