import Sift.Model

/-!
# Sift.Plan

The outcome of resolving a top-level key of a filter: conditions, grouped by the
related scopes they have to be put in.  Conditions under one relation share its
scope, so that they ask for one related row that satisfies all of them.

Main statements:

* `entries_insert_nil` — a condition on no path is the last entry;
* `relation?_insert_same`, `relation?_insert_other` — a condition on a path goes into
  the first relation of the path and leaves all others alone.
-/

namespace Sift

/-- A condition, or a related scope with entries of its own.  `owner` is the model
that the relation belongs to. -/
inductive Plan.Entry (M : Type) where
  | condition (c : Condition)
  | related (name : String) (owner : M) (inner : List (Plan.Entry M))

/-- Entries in the order in which they were first asked for. -/
structure Plan (M : Type) where
  entries : List (Plan.Entry M)

namespace Plan

variable {M : Type}

def empty : Plan M := ⟨[]⟩

def isEmpty (p : Plan M) : Bool := p.entries.isEmpty

/-! ## Looking inside -/

def Entry.condition? : Entry M → Option Condition
  | .condition c => some c
  | .related _ _ _ => none

/-- The relation of an entry and what lies in its scope. -/
def Entry.related? : Entry M → Option (String × Plan M)
  | .condition _ => none
  | .related name _ inner => some (name, ⟨inner⟩)

/-- The conditions at this level. -/
def conditions (p : Plan M) : List Condition := p.entries.filterMap Entry.condition?

/-- The related scopes at this level. -/
def relations (p : Plan M) : List (String × Plan M) := p.entries.filterMap Entry.related?

/-- The first scope of a relation. -/
def relation? (p : Plan M) (name : String) : Option (Plan M) := Keyed.get? p.relations name

mutual

/-- How many related scopes lie inside one another in an entry. -/
def Entry.depth : Entry M → Nat
  | .condition _ => 0
  | .related _ _ inner => 1 + depths inner

def depths : List (Entry M) → Nat
  | [] => 0
  | e :: es => max e.depth (depths es)

end

mutual

/-- The number of conditions in an entry. -/
def Entry.count : Entry M → Nat
  | .condition _ => 1
  | .related _ _ inner => counts inner

def counts : List (Entry M) → Nat
  | [] => 0
  | e :: es => e.count + counts es

end

/-- How many related scopes lie inside one another. -/
def depth (p : Plan M) : Nat := depths p.entries

/-- The number of conditions on all levels. -/
def count (p : Plan M) : Nat := counts p.entries

/-! ## Inserting -/

/-- Change the scope of a relation, the first of its name; without one, open a new
scope at the end. -/
def updateFirst (name : String) (owner : M) (change : List (Entry M) → List (Entry M)) :
    List (Entry M) → List (Entry M)
  | [] => [.related name owner (change [])]
  | .condition c :: es => .condition c :: updateFirst name owner change es
  | .related n o inner :: es =>
    if n = name then .related n o (change inner) :: es
    else .related n o inner :: updateFirst name owner change es

/-- Put a condition under a path of relations, given with the models they belong to.
The path ends with the shorter of the two lists. -/
def insertInto : List String → List M → Condition → List (Entry M) → List (Entry M)
  | name :: names, owner :: owners, c, es =>
    updateFirst name owner (insertInto names owners c) es
  | [], _, c, es => es ++ [.condition c]
  | _ :: _, [], c, es => es ++ [.condition c]

/-- Put a condition under a path of relations. -/
def insert (p : Plan M) (relations : List String) (owners : List M) (c : Condition) : Plan M :=
  ⟨insertInto relations owners c p.entries⟩

/-- Without relations on the way, a condition becomes the last entry. -/
theorem entries_insert_nil (p : Plan M) (owners : List M) (c : Condition) :
    (p.insert [] owners c).entries = p.entries ++ [.condition c] := rfl

/-- Under its name the scope that was changed is found, or a new one if there was none. -/
theorem get?_related?_updateFirst_self (name : String) (owner : M)
    (change : List (Entry M) → List (Entry M)) (es : List (Entry M)) :
    Keyed.get? ((updateFirst name owner change es).filterMap Entry.related?) name =
      some ⟨change (((Keyed.get? (es.filterMap Entry.related?) name).map entries).getD [])⟩ := by
  induction es with
  | nil => simp [updateFirst, Entry.related?, Keyed.get?]
  | cons e es ih =>
      cases e with
      | condition c => exact ih
      | related n o inner =>
          by_cases h : n = name
          · simp [updateFirst, Entry.related?, Keyed.get?, h]
          · simp only [updateFirst, if_neg h, List.filterMap_cons, Entry.related?, Keyed.get?]
            exact ih

/-- Scopes of other names stay as they were. -/
theorem get?_related?_updateFirst_of_ne {name other : String} (owner : M)
    (change : List (Entry M) → List (Entry M)) (es : List (Entry M)) (h : other ≠ name) :
    Keyed.get? ((updateFirst name owner change es).filterMap Entry.related?) other =
      Keyed.get? (es.filterMap Entry.related?) other := by
  induction es with
  | nil => simp [updateFirst, Entry.related?, Keyed.get?, Ne.symm h]
  | cons e es ih =>
      cases e with
      | condition c => exact ih
      | related n o inner =>
          by_cases hn : n = name
          · subst hn
            simp [updateFirst, Entry.related?, Keyed.get?, Ne.symm h]
          · simp only [updateFirst, if_neg hn, List.filterMap_cons, Entry.related?, Keyed.get?, ih]

/-- A condition on a path goes into the scope of the path's first relation. -/
theorem relation?_insert_same (p : Plan M) (name : String) (names : List String) (owner : M)
    (owners : List M) (c : Condition) :
    (p.insert (name :: names) (owner :: owners) c).relation? name =
      some (((p.relation? name).getD empty).insert names owners c) := by
  simp only [relation?, relations, insert, insertInto, get?_related?_updateFirst_self]
  cases Keyed.get? (p.entries.filterMap Entry.related?) name <;> rfl

/-- A condition on a path leaves the scopes of other relations alone. -/
theorem relation?_insert_other (p : Plan M) {name other : String} (names : List String)
    (owner : M) (owners : List M) (c : Condition) (h : other ≠ name) :
    (p.insert (name :: names) (owner :: owners) c).relation? other = p.relation? other := by
  simp only [relation?, relations, insert, insertInto]
  exact get?_related?_updateFirst_of_ne owner _ _ h

/-! ## Applying -/

mutual

/-- Ask for what an entry asks for. -/
def Entry.apply (g : ModelGraph M) : Entry M → Scope.Builder Unit
  | .condition c => c.apply
  | .related name owner inner => g.havingRelated owner name (applyAll g inner)

/-- Ask for what entries ask for, in turn. -/
def applyAll (g : ModelGraph M) : List (Entry M) → Scope.Builder Unit
  | [] => pure ()
  | e :: es => do e.apply g; applyAll g es

end

/-- Ask for what a plan asks for. -/
def apply (p : Plan M) (g : ModelGraph M) : Scope.Builder Unit := applyAll g p.entries

/-! ## Descriptions -/

mutual

def Entry.inspect (g : ModelGraph M) : Entry M → String
  | .condition c => c.inspect
  | .related name owner inner => Inspect.record "Relation"
      [("name", Inspect.text name), ("owner", Inspect.text (g.name owner)),
       ("inner", Inspect.list (inspectAll g inner))]

def inspectAll (g : ModelGraph M) : List (Entry M) → List String
  | [] => []
  | e :: es => e.inspect g :: inspectAll g es

end

def inspect (p : Plan M) (g : ModelGraph M) : String := Inspect.list (inspectAll g p.entries)

end Plan

end Sift
