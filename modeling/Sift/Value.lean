import Sift.Json.Writer

/-!
# Sift.Value

The values that a filter compares columns with.

A value is read from a document in one of two ways, which agree: `Value.ofJson` by
cases on the document, and `Value.byShape?` by trying the shapes of a value in a
fixed order and taking the first that fits.  `Value.toJson` writes a value back.
-/

namespace Sift

open Decimal (Binary64 Layout)

/-- A value to compare a column with.  An object of a document has no place among
the scalars and is kept as it was read. -/
inductive Value where
  | null
  | bool (b : Bool)
  | int (n : Int64)
  | float (x : Binary64)
  | text (s : String)
  | list (items : List Value)
  | document (j : Json)
deriving Repr

/-- The kinds of values. -/
inductive Value.Kind where
  | null | bool | int | float | text | list | document
deriving DecidableEq, Repr

namespace Value

/-! ## Kinds -/

/-- The name of a kind, as it stands in messages. -/
def Kind.name : Kind → String
  | .null => "null"
  | .bool => "bool"
  | .int => "int"
  | .float => "float"
  | .text => "string"
  | .list => "list"
  | .document => "json"

def kind : Value → Kind
  | .null => .null
  | .bool _ => .bool
  | .int _ => .int
  | .float _ => .float
  | .text _ => .text
  | .list _ => .list
  | .document _ => .document

def isNull : Value → Bool
  | .null => true
  | _ => false

/-- Whether a value can stand for one parameter of a statement. -/
def isScalar : Value → Bool
  | .list _ | .document _ => false
  | _ => true

/-- A scalar other than null. -/
def isPresent (v : Value) : Bool := v.isScalar && !v.isNull

def bool? : Value → Option Bool
  | .bool b => some b
  | _ => none

def text? : Value → Option String
  | .text s => some s
  | _ => none

/-! ## From documents -/

/-- Whether an integer fits into 64 bits with a sign. -/
def fits (n : Int) : Bool := Int64.minValue.toInt ≤ n && n ≤ Int64.maxValue.toInt

/-- An integer if it fits, else the nearest floating-point number, else the number
as the document has it. -/
def ofNumber : Json.Number → Value
  | .float x => .float x
  | .int n =>
    if fits n then
      .int (Int64.ofInt n)
    else
      match Binary64.ofInt? n with
      | some x => .float x
      | none => .document (.number (.int n))

mutual

def ofJson : Json → Value
  | .null => .null
  | .bool b => .bool b
  | .number n => ofNumber n
  | .text s => .text s
  | .array items => .list (ofItems items)
  | .object members => .document (.object members)

def ofItems : List Json → List Value
  | [] => []
  | j :: js => ofJson j :: ofItems js

end

/-! ## By shape -/

/-- An integer that fits. -/
def intShape? : Json → Option Value
  | .number (.int n) => if fits n then some (.int (Int64.ofInt n)) else none
  | _ => none

/-- Any number as a floating-point number. -/
def floatShape? : Json → Option Value
  | .number (.int n) => (Binary64.ofInt? n).map .float
  | .number (.float x) => some (.float x)
  | _ => none

/-- Null, a flag or a text. -/
def plainShape? : Json → Option Value
  | .null => some .null
  | .bool b => some (.bool b)
  | .text s => some (.text s)
  | _ => none

mutual

/-- A list, if every item has a shape. -/
def listShape? : Json → Option Value
  | .array items => (itemShapes? items).map .list
  | _ => none

/-- The first shape that fits of every item. -/
def itemShapes? : List Json → Option (List Value)
  | [] => some []
  | j :: js => do
    let v ← plainShape? j <|> intShape? j <|> floatShape? j <|> listShape? j <|> some (.document j)
    return v :: (← itemShapes? js)

end

/-- The first shape that fits; a document fits where no other shape does. -/
def byShape? (j : Json) : Option Value :=
  plainShape? j <|> intShape? j <|> floatShape? j <|> listShape? j <|> some (.document j)

/-! ## To documents -/

mutual

/-- The document of a value.  A floating-point number that is not finite has none
and is written as null. -/
def toJson : Value → Json
  | .null => .null
  | .bool b => .bool b
  | .int n => .int n.toInt
  | .float x => if x.isNaN || x.isInfinite then .null else .number (.float x)
  | .text s => .text s
  | .list items => .array (toItems items)
  | .document j => j

def toItems : List Value → List Json
  | [] => []
  | v :: vs => toJson v :: toItems vs

end

/-! ## Descriptions -/

mutual

def inspect : Value → String
  | .null => "Null"
  | .bool b => Inspect.tagged "Bool" (Inspect.flag b)
  | .int n => Inspect.tagged "Int" (toString n.toInt)
  | .float x => Inspect.tagged "Float" (Layout.described.write x)
  | .text s => Inspect.tagged "String" (Inspect.text s)
  | .list items => Inspect.tagged "List" (Inspect.list (inspectItems items))
  | .document j => Inspect.tagged "Json" j.inspect

def inspectItems : List Value → List String
  | [] => []
  | v :: vs => inspect v :: inspectItems vs

end

end Value

end Sift
