import Sift.Value

/-!
# Sift.Filter

Filters as a client sends them: a tree of groups whose leaves hold the arguments of
operators.  A key of a group is the symbol of an operator or the name of a field;
which of the two is decided by the operators that are registered when the filter is
resolved.  The order of the keys is kept.

A filter is read from a document in one of two ways, which agree: `Filter.ofJson`
by cases on the document, and `Filter.byShape?` by trying a group first and a value
second.
-/

namespace Sift

/-- A filter: a group of keyed filters, or the arguments of an operator. -/
inductive Filter where
  | group (entries : List (String × Filter))
  | leaf (value : Value)
deriving Repr

namespace Filter

/-! ## Building -/

def empty : Filter := .group []

instance : Inhabited Filter := ⟨empty⟩

/-- The group of the given pairs; a repeated key takes its last filter. -/
def ofPairs (pairs : List (String × Filter)) : Filter := .group (Keyed.ofList pairs)

def entry (key : String) (filter : Filter) : Filter := .group [(key, filter)]

/-! ## Looking inside -/

def isGroup : Filter → Bool
  | .group _ => true
  | .leaf _ => false

def isEmpty : Filter → Bool
  | .group [] => true
  | _ => false

def entries? : Filter → Option (List (String × Filter))
  | .group entries => some entries
  | .leaf _ => none

def first? (f : Filter) : Option (String × Filter) := f.entries?.bind List.head?

/-- The keys of a group; a leaf has none. -/
def keys : Filter → List String
  | .group entries => Keyed.keys entries
  | .leaf _ => []

/-- The arguments in a leaf: the items of a list, or the one value itself, null
included. -/
def arguments? : Filter → Option (List Value)
  | .group _ => none
  | .leaf (.list items) => some items
  | .leaf v => some [v]

/-! ## From documents -/

mutual

/-- The filter of a document: objects are groups, down to the first value that is
no object. -/
def ofJson : Json → Filter
  | .object members => .group (ofMembers members)
  | j => .leaf (Value.ofJson j)

def ofMembers : List (String × Json) → List (String × Filter)
  | [] => []
  | (key, j) :: ms => (key, ofJson j) :: ofMembers ms

end

mutual

/-- The first shape that fits: a group of filters, or else a value. -/
def byShape? : Json → Option Filter
  | .object members =>
    (memberShapes? members).map .group <|> (Value.byShape? (.object members)).map .leaf
  | j => (Value.byShape? j).map .leaf

/-- The shapes of the members of an object, if every one has a shape. -/
def memberShapes? : List (String × Json) → Option (List (String × Filter))
  | [] => some []
  | (key, j) :: ms => do
    let f ← byShape? j
    return (key, f) :: (← memberShapes? ms)

end

/-! ## To documents -/

mutual

def toJson : Filter → Json
  | .group entries => .object (toMembers entries)
  | .leaf v => v.toJson

def toMembers : List (String × Filter) → List (String × Json)
  | [] => []
  | (key, f) :: es => (key, f.toJson) :: toMembers es

end

end Filter

end Sift
