/-!
# Sift.Path

The names on the way down through a filter, the outermost first.  The last name is
the column an operator applies to; those before it are the relations that lead to
the column's model.
-/

namespace Sift

/-- Names on the way down, the outermost first. -/
structure Path where
  segments : List String
deriving DecidableEq, Repr

namespace Path

def empty : Path := ⟨[]⟩

/-- One step further down. -/
def push (p : Path) (segment : String) : Path := ⟨p.segments ++ [segment]⟩

/-- One step back. -/
def pop (p : Path) : Path := ⟨p.segments.dropLast⟩

def last? (p : Path) : Option String := p.segments.getLast?

/-- The innermost name, and the names that lead to it. -/
def splitLast? (p : Path) : Option (String × List String) :=
  p.last?.map fun segment => (segment, p.segments.dropLast)

def length (p : Path) : Nat := p.segments.length

def isEmpty (p : Path) : Bool := p.segments.isEmpty

def toString (p : Path) : String := String.intercalate "." p.segments

instance : ToString Path := ⟨toString⟩

/-! ## Stepping down and back -/

/-- Going down to a name and up again leads back. -/
@[simp] theorem pop_push (p : Path) (segment : String) : (p.push segment).pop = p := by
  simp [push, pop]

@[simp] theorem last?_push (p : Path) (segment : String) :
    (p.push segment).last? = some segment := by
  simp [push, last?]

/-- The last name of a path is the one that was gone down to last. -/
@[simp] theorem splitLast?_push (p : Path) (segment : String) :
    (p.push segment).splitLast? = some (segment, p.segments) := by
  simp [push, splitLast?, last?]

theorem length_push (p : Path) (segment : String) :
    (p.push segment).length = p.length + 1 := by
  simp [push, length]

/-- Only the empty path has no last name. -/
theorem splitLast?_eq_none_iff {p : Path} : p.splitLast? = none ↔ p = empty := by
  obtain ⟨segments⟩ := p
  simp [splitLast?, last?, empty]

end Path

end Sift
