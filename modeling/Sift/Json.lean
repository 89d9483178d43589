import Sift.Decimal.Binary64
import Sift.Keyed

/-!
# Sift.Json

The values of a JSON document.  Integers from `-2 ^ 63` up to `2 ^ 64` are kept
exactly, every other number as a floating-point number; an object keeps its members
in the order of its keys' first appearance.
-/

namespace Sift

open Decimal (Binary64)

/-- A number of a document. -/
inductive Json.Number where
  | int (n : Int)
  | float (x : Binary64)
deriving DecidableEq, Repr

/-- A document. -/
inductive Json where
  | null
  | bool (b : Bool)
  | number (n : Json.Number)
  | text (s : String)
  | array (items : List Json)
  | object (members : List (String × Json))
deriving Repr

namespace Json

instance : Inhabited Json := ⟨.null⟩

/-- The integers that a document can hold exactly: those of 64 bits, with a sign or
without. -/
def exactInt (n : Int) : Bool := Int64.minValue.toInt ≤ n && n < UInt64.size

def int (n : Int) : Json := .number (.int n)

def member? (j : Json) (key : String) : Option Json :=
  match j with
  | .object members => Keyed.get? members key
  | _ => none

end Json

end Sift
