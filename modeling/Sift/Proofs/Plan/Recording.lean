import Sift.Proofs.Engine.Filter
import Sift.Proofs.Plan.Occupied
import Sift.Proofs.Scope.Program

/-!
# Sift.Proofs.Plan.Recording

What a plan looks like once it has been added to a scope.  The clauses it adds are the plan
itself, entry by entry and level by level, with every relation replaced by its join; nothing
else of the scope changes.

Main statements:

* `recordedAs_clausesOf` — the clauses of a plan record its entries;
* `deepest_of_recordedAs`, `length_conditionsOf_of_recordedAs` — as deep as the plan, with
  as many conditions;
* `records_of_resolve` — so the plan of a filter is recorded in any scope, and no related
  scope is recorded without a condition inside.
-/

namespace Sift

/-! ## Clauses with conditions inside -/

mutual

/-- Every related scope in a clause holds a condition, on its own level or below. -/
def Clause.Occupied : Clause → Prop
  | .condition _ => True
  | .related _ _ clauses => Clause.conditionsOf clauses ≠ [] ∧ Clause.OccupiedEach clauses

/-- Every related scope in some clauses holds a condition. -/
def Clause.OccupiedEach : List Clause → Prop
  | [] => True
  | c :: cs => c.Occupied ∧ Clause.OccupiedEach cs

end

namespace Plan

variable {M : Type} {g : ModelGraph M} {frame : Frame}

/-! ## Entries and their clauses -/

mutual

/-- A clause about the rows of a frame records an entry.  A condition is recorded as it is,
and a scope as a clause about the rows that the relation of its owner leads to: over the table
of the join, in the same dialect, one level further down and named after that level. -/
def Entry.RecordedAs (g : ModelGraph M) (frame : Frame) : Entry M → Clause → Prop
  | .condition c, .condition d => d = c
  | .related name owner inner, .related join sub cs =>
    (∃ target, g.relation owner name = some (target, join)) ∧
      sub = ⟨frame.dialect, join.relatedTable, some ("r" ++ toString (frame.depth + 1)),
        frame.depth + 1⟩ ∧
      RecordedAs g sub inner cs
  | _, _ => False

/-- Clauses about the rows of a frame record entries, one clause for each entry. -/
def RecordedAs (g : ModelGraph M) (frame : Frame) : List (Entry M) → List Clause → Prop
  | [], [] => True
  | e :: es, c :: cs => e.RecordedAs g frame c ∧ RecordedAs g frame es cs
  | _, _ => False

end

/-- The clauses of entries whose relations exist record the entries. -/
theorem recordedAs_clausesOf : {frame : Frame} → {es : List (Entry M)} → Supported g es →
    RecordedAs g frame es (clausesOf g frame es)
  | _, [], _ => trivial
  | _, .condition _ :: _, h => ⟨rfl, recordedAs_clausesOf h.2⟩
  | frame, .related name owner inner :: es, h => by
      obtain ⟨⟨hname, hinner⟩, hes⟩ := h
      obtain ⟨⟨target, join⟩, hrel⟩ := Option.isSome_iff_exists.mp hname
      rw [clausesOf_cons, Entry.clauses, hrel]
      exact ⟨⟨⟨target, hrel⟩, rfl, recordedAs_clausesOf hinner⟩, recordedAs_clausesOf hes⟩

/-! ## What is known of the clauses -/

/-- There is one clause for each entry. -/
theorem length_of_recordedAs : {es : List (Entry M)} → {cs : List Clause} →
    RecordedAs g frame es cs → cs.length = es.length
  | [], [], _ => rfl
  | _ :: _, _ :: _, h => congrArg (· + 1) (length_of_recordedAs h.2)

/-- The clauses are as deep as the entries. -/
theorem deepest_of_recordedAs : {frame : Frame} → {es : List (Entry M)} → {cs : List Clause} →
    RecordedAs g frame es cs → Clause.deepest cs = depths es
  | _, [], [], _ => rfl
  | _, .condition _ :: es, .condition _ :: cs, h => by
      rw [Clause.deepest, depths, Clause.nesting, Entry.depth, deepest_of_recordedAs h.2]
  | _, .related _ _ _ :: es, .related _ _ _ :: cs, h => by
      rw [Clause.deepest, depths, Clause.nesting, Entry.depth, deepest_of_recordedAs h.1.2.2,
        deepest_of_recordedAs h.2]

/-- The clauses hold as many conditions as the entries. -/
theorem length_conditionsOf_of_recordedAs : {frame : Frame} → {es : List (Entry M)} →
    {cs : List Clause} → RecordedAs g frame es cs →
    (Clause.conditionsOf cs).length = counts es
  | _, [], [], _ => rfl
  | _, .condition _ :: es, .condition _ :: cs, h => by
      rw [Clause.conditionsOf, List.length_append, counts_cons,
        length_conditionsOf_of_recordedAs h.2]
      rfl
  | _, .related _ _ _ :: es, .related _ _ _ :: cs, h => by
      rw [Clause.conditionsOf, List.length_append, counts_cons, Clause.conditions, Entry.count,
        length_conditionsOf_of_recordedAs h.1.2.2, length_conditionsOf_of_recordedAs h.2]

/-- Where every scope of the entries holds a condition, so does every related scope in the
clauses. -/
theorem occupiedEach_of_recordedAs : {frame : Frame} → {es : List (Entry M)} →
    {cs : List Clause} → RecordedAs g frame es cs → Occupied es → Clause.OccupiedEach cs
  | _, [], [], _, _ => trivial
  | _, .condition _ :: _, .condition _ :: _, h, hes =>
      ⟨trivial, occupiedEach_of_recordedAs h.2 hes.2⟩
  | _, .related _ _ _ :: _, .related _ _ _ :: _, h, hes => by
      have hcount := length_conditionsOf_of_recordedAs h.1.2.2
      refine ⟨⟨fun hempty => ?_, occupiedEach_of_recordedAs h.1.2.2 hes.1.2⟩,
        occupiedEach_of_recordedAs h.2 hes.2⟩
      rw [hempty] at hcount
      exact absurd hcount.symm (Nat.pos_iff_ne_zero.mp hes.1.1)

end Plan

/-! ## Plans of filters -/

namespace Resolver

variable {M : Type} {r : Resolver} {g : ModelGraph M} {m : M} {dialect : Dialect}
  {field : String} {f : Filter} {p : Plan M}

/-- Every scope in the plan of a filter holds a condition. -/
theorem occupied_of_resolve (h : (r.resolve g m dialect field f).outcome = .ok p) :
    Plan.Occupied p.entries := by
  obtain ⟨-, rfl⟩ := outcome_resolve_eq_ok_iff.mp h
  exact Plan.occupied_ofPlacements _

/-- The plan of a filter can be added to any scope, on any level.  It leaves everything that
is there as it was and adds one clause for each of its entries, in order: a condition as it
stands, and a scope as a clause about related rows whose clauses record what is inside.  So
the clauses are as deep as the plan and hold as many conditions, and none of them asks for
a related row without a condition on it or on rows further down. -/
theorem records_of_resolve (h : (r.resolve g m dialect field f).outcome = .ok p) (s : Scope) :
    ∃ added, s.run (p.apply g) = (.ok (), ⟨s.frame, s.clauses ++ added⟩) ∧
      added.length = p.entries.length ∧ Plan.RecordedAs g s.frame p.entries added ∧
      Clause.deepest added = p.depth ∧ (Clause.conditionsOf added).length = p.count ∧
      Clause.OccupiedEach added := by
  have hsupported := supported_of_vetted (vetted_of_resolve h)
  have hrecorded : Plan.RecordedAs g s.frame p.entries (Plan.clausesOf g s.frame p.entries) :=
    Plan.recordedAs_clausesOf hsupported
  exact ⟨Plan.clausesOf g s.frame p.entries, Plan.run_applyAll g p.entries hsupported s,
    Plan.length_of_recordedAs hrecorded, hrecorded, Plan.deepest_of_recordedAs hrecorded,
    Plan.length_conditionsOf_of_recordedAs hrecorded,
    Plan.occupiedEach_of_recordedAs hrecorded (occupied_of_resolve h)⟩

end Resolver

/-- Authors of a book with a title and an author of its own are asked for three levels down,
behind a condition that is there already. -/
theorem Engine.records_library :
    let f : Filter := .group
      [("title", .group [("$like", .leaf (.text "O%"))]),
        ("author", .group [("name", .group [("$eq", .leaf (.text "Woolf"))])])]
    let p : Plan (Fin 2) :=
      ⟨[.related "books" 0
        [.condition (.raw "title" (Condition.columnMark ++ " ILIKE ?") [.text "O%"]),
          .related "author" 1 [.condition (.compare "name" .eq (.text "Woolf"))]]]⟩
    let s : Scope := ⟨⟨.postgres, "authors", some "r3", 3⟩, [.condition (.null "id" true)]⟩
    (library.resolver.resolve library.catalog.graph (0 : Fin 2) .postgres "books" f).outcome =
        .ok p ∧
      ∃ added, s.run (p.apply library.catalog.graph) = (.ok (), ⟨s.frame, s.clauses ++ added⟩) ∧
        added.length = 1 ∧ Plan.RecordedAs library.catalog.graph s.frame p.entries added ∧
        Clause.deepest added = 2 ∧ (Clause.conditionsOf added).length = 2 ∧
        Clause.OccupiedEach added := by
  intro f p s
  have hp : (library.resolver.resolve library.catalog.graph (0 : Fin 2) .postgres "books"
      f).outcome = .ok p := rfl
  exact ⟨hp, Resolver.records_of_resolve hp s⟩

end Sift
