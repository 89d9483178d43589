import Sift.Plan

/-!
# Sift.Proofs.Plan.Clauses

What a plan adds to a scope.  The clauses of a plan are said by recursion on its entries:
a condition is a clause as it stands, and a scope becomes a clause about the rows that its
relation leads to.

Main statement: `run_applyAll` — applying a plan whose relations all exist cannot fail, and
adds exactly the clauses of the plan behind those that are there.
-/

namespace Sift

namespace Scope

/-- A scope with further clauses. -/
def extend (s : Scope) (cs : List Clause) : Scope := { s with clauses := s.clauses ++ cs }

@[simp] theorem frame_extend (s : Scope) (cs : List Clause) : (s.extend cs).frame = s.frame := rfl

@[simp] theorem extend_nil (s : Scope) : s.extend [] = s := by simp [extend]

/-- Clauses may be added in two parts. -/
theorem extend_extend (s : Scope) (cs ds : List Clause) :
    (s.extend cs).extend ds = s.extend (cs ++ ds) := by
  simp [extend]

end Scope

namespace Plan

variable {M : Type}

/-! ## The clauses of a plan -/

mutual

/-- The clauses of an entry, in a scope over the rows of a frame. -/
def Entry.clauses (g : ModelGraph M) (frame : Frame) : Entry M → List Clause
  | .condition c => [.condition c]
  | .related name owner inner =>
    match g.relation owner name with
    | none => []
    | some (_, join) =>
      [.related join (frame.related join) (clausesOf g (frame.related join) inner)]

/-- The clauses of entries, in turn. -/
def clausesOf (g : ModelGraph M) (frame : Frame) : List (Entry M) → List Clause
  | [] => []
  | e :: es => e.clauses g frame ++ clausesOf g frame es

end

@[simp] theorem clausesOf_nil (g : ModelGraph M) (frame : Frame) :
    clausesOf g frame [] = [] := rfl

@[simp] theorem clausesOf_cons (g : ModelGraph M) (frame : Frame) (e : Entry M)
    (es : List (Entry M)) :
    clausesOf g frame (e :: es) = e.clauses g frame ++ clausesOf g frame es := rfl

@[simp] theorem clausesOf_append (g : ModelGraph M) (frame : Frame) (es fs : List (Entry M)) :
    clausesOf g frame (es ++ fs) = clausesOf g frame es ++ clausesOf g frame fs := by
  induction es with
  | nil => rfl
  | cons e es ih => simp [ih]

/-- The clauses of entries are those of each of them. -/
theorem mem_clausesOf {g : ModelGraph M} {frame : Frame} {es : List (Entry M)} {c : Clause} :
    c ∈ clausesOf g frame es ↔ ∃ e ∈ es, c ∈ e.clauses g frame := by
  induction es with
  | nil => simp
  | cons e es ih => simp [ih]

mutual

/-- Every relation of an entry exists. -/
def Entry.Supported (g : ModelGraph M) : Entry M → Prop
  | .condition _ => True
  | .related name owner inner => (g.relation owner name).isSome = true ∧ Supported g inner

/-- Every relation of some entries exists. -/
def Supported (g : ModelGraph M) : List (Entry M) → Prop
  | [] => True
  | e :: es => e.Supported g ∧ Supported g es

end

/-! ## Applying -/

mutual

/-- An entry whose relations exist adds its clauses. -/
theorem run_apply (g : ModelGraph M) : (e : Entry M) → e.Supported g → (s : Scope) →
    s.run (e.apply g) = (.ok (), s.extend (e.clauses g s.frame))
  | .condition c, _, s => Scope.run_apply s c
  | .related name owner inner, h, s => by
      rw [Entry.Supported] at h
      obtain ⟨⟨related, join⟩, hrel⟩ := Option.isSome_iff_exists.mp h.1
      have hinner := run_applyAll g inner h.2 ⟨s.frame.related join, []⟩
      rw [Entry.apply, ModelGraph.havingRelated, Entry.clauses, hrel]
      exact Scope.run_related_ok hinner

/-- Entries whose relations exist add their clauses, in turn. -/
theorem run_applyAll (g : ModelGraph M) : (es : List (Entry M)) → Supported g es →
    (s : Scope) → s.run (applyAll g es) = (.ok (), s.extend (clausesOf g s.frame es))
  | [], _, s => by
      rw [applyAll, Scope.run_pure, clausesOf_nil, Scope.extend_nil]
  | e :: es, h, s => by
      rw [Supported] at h
      rw [applyAll, Scope.run_bind, run_apply g e h.1 s]
      simp only
      rw [run_applyAll g es h.2, Scope.frame_extend, Scope.extend_extend, clausesOf_cons]

end

end Plan

end Sift
