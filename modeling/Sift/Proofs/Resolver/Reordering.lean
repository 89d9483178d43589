import Sift.Proofs.Engine.Filter
import Sift.Proofs.Resolver.Outline

/-!
# Sift.Proofs.Resolver.Reordering

The order of keys.  Whether an operator is within reach is looked for along first entries,
and a relation gets its scope where its first key stands, so the order decides how a filter
is walked through.  What is accepted, and what is put where, does not depend on it: every
entry of a group is accepted or refused by itself, and all keys of a relation share one
scope, in whatever order they come.

Main statement: `resolve_of_reordered` — filters that differ in the order of keys only are
resolved both or not at all, and their plans differ in the order of entries only.
-/

namespace Sift

/-! ## Reordered filters -/

mutual

/-- Two filters differ in the order of the keys of groups at most. -/
inductive Filter.Reordered : Filter → Filter → Prop
  | leaf (v : Value) : Filter.Reordered (.leaf v) (.leaf v)
  | group {es fs gs : List (String × Filter)} (each : Filter.ReorderedEach es fs)
      (order : fs.Perm gs) : Filter.Reordered (.group es) (.group gs)

/-- Entries have the same keys in the same order, and below them filters that differ in the
order of keys at most. -/
inductive Filter.ReorderedEach : List (String × Filter) → List (String × Filter) → Prop
  | nil : Filter.ReorderedEach [] []
  | cons {f f' : Filter} {es fs : List (String × Filter)} (key : String)
      (first : Filter.Reordered f f') (rest : Filter.ReorderedEach es fs) :
      Filter.ReorderedEach ((key, f) :: es) ((key, f') :: fs)

end

namespace Filter

variable {f f' : Filter} {es fs : List (String × Filter)}

/-- Reordering further down keeps the keys of a level. -/
theorem ReorderedEach.keys_eq (h : ReorderedEach es fs) : Keyed.keys es = Keyed.keys fs := by
  induction es generalizing fs with
  | nil =>
      cases h
      rfl
  | cons e es ih =>
      cases h with
      | cons key first rest => rw [Keyed.keys_cons, Keyed.keys_cons, ih rest]

/-- A reordered filter has the same arguments. -/
theorem Reordered.arguments?_eq (h : f.Reordered f') : f.arguments? = f'.arguments? := by
  cases h <;> rfl

mutual

/-- Reordering keys makes no key appear twice. -/
theorem Reordered.distinct : {f f' : Filter} → f.Reordered f' → f.Distinct → f'.Distinct
  | _, _, .leaf v, h => h
  | _, _, .group each order, h => by
      rw [Distinct, each.keys_eq] at h
      rw [Distinct, distinctEach_iff]
      have hfs := distinctEach_iff.mp (each.distinctEach h.2)
      exact ⟨(order.map Prod.fst).nodup h.1, fun e he => hfs e (order.mem_iff.mpr he)⟩

theorem ReorderedEach.distinctEach : {es fs : List (String × Filter)} → ReorderedEach es fs →
    DistinctEach es → DistinctEach fs
  | _, _, .nil, h => h
  | _, _, .cons key first rest, h => by
      rw [DistinctEach] at h ⊢
      exact ⟨first.distinct h.1, rest.distinctEach h.2⟩

end

end Filter

/-! ## Reordered plans -/

mutual

/-- Two entries of a plan ask for the same, but for the order of what stands in a scope. -/
inductive Plan.Entry.Reordered {M : Type} : Plan.Entry M → Plan.Entry M → Prop
  | condition (c : Condition) : Plan.Entry.Reordered (.condition c) (.condition c)
  | related {es fs gs : List (Plan.Entry M)} (name : String) (owner : M)
      (each : Plan.ReorderedEach es fs) (order : fs.Perm gs) :
      Plan.Entry.Reordered (.related name owner es) (.related name owner gs)

/-- Entries ask in turn for the same, but for the order of what stands in scopes. -/
inductive Plan.ReorderedEach {M : Type} : List (Plan.Entry M) → List (Plan.Entry M) → Prop
  | nil : Plan.ReorderedEach [] []
  | cons {e e' : Plan.Entry M} {es fs : List (Plan.Entry M)} (first : Plan.Entry.Reordered e e')
      (rest : Plan.ReorderedEach es fs) : Plan.ReorderedEach (e :: es) (e' :: fs)

end

namespace Plan

variable {M : Type}

/-- Entries differ in the order in which they stand at each level at most. -/
def Reordered (es gs : List (Entry M)) : Prop := ∃ fs, ReorderedEach es fs ∧ fs.Perm gs

mutual

theorem Entry.Reordered.refl : (e : Entry M) → e.Reordered e
  | .condition c => .condition c
  | .related name owner inner => .related name owner (ReorderedEach.refl inner) (.refl inner)

theorem ReorderedEach.refl : (es : List (Entry M)) → ReorderedEach es es
  | [] => .nil
  | e :: es => .cons (Entry.Reordered.refl e) (ReorderedEach.refl es)

end

/-- Entries may be reordered in two parts. -/
theorem ReorderedEach.append {es es' fs fs' : List (Entry M)} (h : ReorderedEach es es')
    (h' : ReorderedEach fs fs') : ReorderedEach (es ++ fs) (es' ++ fs') := by
  induction es generalizing es' with
  | nil =>
      cases h
      exact h'
  | cons e es ih =>
      cases h with
      | cons first rest => exact .cons first (ih rest)

/-- So may whole levels. -/
theorem Reordered.append {es es' fs fs' : List (Entry M)} (h : Reordered es es')
    (h' : Reordered fs fs') : Reordered (es ++ fs) (es' ++ fs') := by
  obtain ⟨xs, heach, horder⟩ := h
  obtain ⟨ys, heach', horder'⟩ := h'
  exact ⟨xs ++ ys, heach.append heach', horder.append horder'⟩

end Plan

namespace Resolver

variable {M : Type}

/-! ## Acceptance -/

section Acceptance

variable (r : Resolver) (g : ModelGraph M) (dialect : Dialect)

/-- Entries are accepted one by one, in any order. -/
theorem acceptsEach_perm {m : M} {field : String} {es fs : List (String × Filter)}
    (h : es.Perm fs) : r.AcceptsEach g dialect m field es ↔ r.AcceptsEach g dialect m field fs := by
  induction h with
  | nil => rfl
  | cons e _ ih => rw [AcceptsEach, AcceptsEach, ih]
  | swap e e' es =>
      simp only [AcceptsEach]
      constructor
      · rintro ⟨hpermits', hf', hpermits, hf, hrest⟩
        exact ⟨hpermits, hf, hpermits', hf', hrest⟩
      · rintro ⟨hpermits, hf, hpermits', hf', hrest⟩
        exact ⟨hpermits', hf', hpermits, hf, hrest⟩
  | trans _ _ ih ih' => exact ih.trans ih'

mutual

/-- The order of keys does not decide what is accepted. -/
theorem accepts_reordered (m : M) (field : String) : {f f' : Filter} → f.Reordered f' →
    (r.Accepts g dialect m field f ↔ r.Accepts g dialect m field f')
  | _, _, .leaf v => Iff.rfl
  | _, _, @Filter.Reordered.group es _ gs each order => by
      have hlength : es.length = gs.length := by
        simpa [Keyed.keys, order.length_eq] using congrArg List.length each.keys_eq
      have hempty : es ≠ [] ↔ gs ≠ [] := by
        rw [← List.length_pos_iff, ← List.length_pos_iff, hlength]
      rw [Accepts, Accepts, hempty, acceptsEach_reordered m field each,
        acceptsEach_perm r g dialect order]

/-- Nor does it among the entries under a field. -/
theorem acceptsEach_reordered (m : M) (field : String) : {es fs : List (String × Filter)} →
    Filter.ReorderedEach es fs →
    (r.AcceptsEach g dialect m field es ↔ r.AcceptsEach g dialect m field fs)
  | _, _, .nil => Iff.rfl
  | _, _, .cons key first rest => by
      have hrest := acceptsEach_reordered m field rest
      rw [AcceptsEach, AcceptsEach, hrest]
      cases r.registry.lookup key with
      | some e => simp only [Takes, first.arguments?_eq]
      | none =>
          have hfirst := fun related : M => accepts_reordered related key first
          simp only [hfirst]

end

end Acceptance

/-! ## Outlines -/

section Outlines

variable (r : Resolver) (g : ModelGraph M) (dialect : Dialect)

/-- The conditions of operators come from the entries one by one. -/
theorem operatorEntries_perm (field : String) {es fs : List (String × Filter)} (h : es.Perm fs) :
    (r.operatorEntries dialect field es : List (Plan.Entry M)).Perm
      (r.operatorEntries dialect field fs) := by
  induction h with
  | nil => exact .nil
  | cons e _ ih =>
      rw [operatorEntries, operatorEntries]
      exact ih.append_left _
  | swap e e' es =>
      simp only [operatorEntries]
      exact List.perm_append_comm_assoc ..
  | trans _ _ ih ih' => exact ih.trans ih'

/-- Wherever the first key of a relation stands, there is one scope among the conditions. -/
theorem level_perm (field : String) (scope : Plan.Entry M) {es fs : List (String × Filter)}
    (h : es.Perm fs) :
    (r.level dialect field scope es).Perm (r.level dialect field scope fs) := by
  induction h with
  | nil => exact .nil
  | cons e order ih =>
      rw [level, level]
      cases r.registry.lookup e.1 with
      | some o => exact ih.append_left _
      | none => exact (operatorEntries_perm r dialect field order).cons scope
  | swap e e' es =>
      simp only [level, operatorEntries]
      cases r.registry.lookup e.1 with
      | some o =>
          cases r.registry.lookup e'.1 with
          | some o' => exact List.perm_append_comm_assoc ..
          | none => exact List.perm_middle.symm
      | none =>
          cases r.registry.lookup e'.1 with
          | some o' => exact List.perm_middle
          | none => exact .refl _
  | trans _ _ ih ih' => exact ih.trans ih'

/-- With its entries in another order a field asks the same of the related model. -/
theorem outlineInside_perm (m : M) (field : String) {es fs : List (String × Filter)}
    (h : es.Perm fs) :
    (r.outlineInside g dialect m field es).Perm (r.outlineInside g dialect m field fs) := by
  induction h with
  | nil => exact .nil
  | cons e _ ih =>
      rw [outlineInside, outlineInside]
      exact ih.append_left _
  | swap e e' es =>
      simp only [outlineInside]
      exact List.perm_append_comm_assoc ..
  | trans _ _ ih ih' => exact ih.trans ih'

/-- Below an operator there are no keys to reorder. -/
theorem operatorEntries_reordered (field : String) {es fs : List (String × Filter)}
    (h : Filter.ReorderedEach es fs) :
    (r.operatorEntries dialect field es : List (Plan.Entry M)) =
      r.operatorEntries dialect field fs := by
  induction es generalizing fs with
  | nil =>
      cases h
      rfl
  | cons e es ih =>
      cases h with
      | cons key first rest =>
          simp only [operatorEntries, operatorEntry, first.arguments?_eq, ih rest]

/-- Reordering further down leaves a level as it is. -/
theorem level_reordered (field : String) (scope : Plan.Entry M)
    {es fs : List (String × Filter)} (h : Filter.ReorderedEach es fs) :
    r.level dialect field scope es = r.level dialect field scope fs := by
  induction es generalizing fs with
  | nil =>
      cases h
      rfl
  | cons e es ih =>
      cases h with
      | cons key first rest =>
          simp only [level, operatorEntry, first.arguments?_eq, ih rest,
            operatorEntries_reordered r dialect field rest]

/-- A level changes with its scope and in no other place. -/
theorem reorderedEach_level (field : String) {scope scope' : Plan.Entry M}
    (h : scope.Reordered scope') (entries : List (String × Filter)) :
    Plan.ReorderedEach (r.level dialect field scope entries)
      (r.level dialect field scope' entries) := by
  induction entries with
  | nil => exact .nil
  | cons e es ih =>
      rw [level, level]
      cases r.registry.lookup e.1 with
      | some o => exact (Plan.ReorderedEach.refl _).append ih
      | none => exact .cons h (.refl _)

mutual

/-- The outlines of filters that differ in the order of keys differ in the order of
entries. -/
theorem outline_reordered (m : M) (field : String) : {f f' : Filter} → f.Reordered f' →
    Plan.Reordered (r.outline g dialect m field f) (r.outline g dialect m field f')
  | _, _, .leaf v => ⟨_, .refl _, .refl _⟩
  | _, _, @Filter.Reordered.group _ fs _ each order => by
      obtain ⟨xs, hxs, horder⟩ := outlineInside_reordered m field each
      have hscope := Plan.Entry.Reordered.related field m hxs
        (horder.trans (outlineInside_perm r g dialect m field order))
      rw [outline, outline, level_reordered r dialect field _ each]
      exact ⟨_, reorderedEach_level r dialect field hscope fs,
        level_perm r dialect field _ order⟩

/-- So is what its entries ask of the related model. -/
theorem outlineInside_reordered (m : M) (field : String) :
    {es fs : List (String × Filter)} → Filter.ReorderedEach es fs →
    Plan.Reordered (r.outlineInside g dialect m field es) (r.outlineInside g dialect m field fs)
  | _, _, .nil => ⟨_, .refl _, .refl _⟩
  | _, _, .cons key first rest => by
      rw [outlineInside, outlineInside]
      refine Plan.Reordered.append ?_ (outlineInside_reordered m field rest)
      cases r.registry.lookup key with
      | some e => exact ⟨_, .nil, .nil⟩
      | none =>
          cases g.relation m field with
          | none => exact ⟨_, .nil, .nil⟩
          | some target => exact outline_reordered target.1 key first

end

end Outlines

/-- Filters that differ in the order of keys are resolved both or not at all.  Their plans
have the same conditions and the same scopes, with the same owners, at each level. -/
theorem resolve_of_reordered (r : Resolver) (g : ModelGraph M) (m : M) (dialect : Dialect)
    (field : String) {f f' : Filter} (hdistinct : f.Distinct) (h : f.Reordered f') :
    ((∃ p, (r.resolve g m dialect field f).outcome = .ok p) ↔
      ∃ p, (r.resolve g m dialect field f').outcome = .ok p) ∧
    ∀ p p', (r.resolve g m dialect field f).outcome = .ok p →
      (r.resolve g m dialect field f').outcome = .ok p' →
      Plan.Reordered p.entries p'.entries := by
  constructor
  · simp only [outcome_resolve_eq_ok_iff, accepts_reordered r g dialect m field h, exists_and_left,
      exists_eq, and_true]
  · intro p p' hp hp'
    obtain ⟨haccepts, rfl⟩ := outcome_resolve_eq_ok_iff.mp hp
    obtain ⟨haccepts', rfl⟩ := outcome_resolve_eq_ok_iff.mp hp'
    rw [outline_of_placements haccepts hdistinct,
      outline_of_placements haccepts' (h.distinct hdistinct)]
    exact outline_reordered r g dialect m field h

end Resolver

/-! ## An example -/

namespace Engine

/-- The plan of books that authors of the library are asked for. -/
def planOfBooks (f : Filter) : Except Fault (Plan (Fin 2)) :=
  (library.resolver.resolve library.catalog.graph (⟨0, Nat.zero_lt_two⟩ : Fin 2) .postgres "books"
    f).outcome

/-- Books by title and by year. -/
def byTitleAndYear : Filter :=
  .group [("title", .entry "$startsWith" (.leaf (.text "To the"))),
    ("year", .group [("$gt", .leaf (.int 1920)), ("$lt", .leaf (.int 1930))])]

/-- Books by year and by title. -/
def byYearAndTitle : Filter :=
  .group [("year", .group [("$lt", .leaf (.int 1930)), ("$gt", .leaf (.int 1920))]),
    ("title", .entry "$startsWith" (.leaf (.text "To the")))]

/-- With its keys in another order on two levels, the filter makes another plan, which asks
for the same. -/
theorem resolve_of_reordered_library :
    byTitleAndYear.Distinct ∧ byTitleAndYear.Reordered byYearAndTitle ∧
      ∃ p p', planOfBooks byTitleAndYear = .ok p ∧ planOfBooks byYearAndTitle = .ok p' ∧
        Plan.Reordered p.entries p'.entries := by
  have hdistinct : byTitleAndYear.Distinct := by
    simp [byTitleAndYear, Filter.entry, Filter.Distinct, Filter.DistinctEach]
  have hreordered : byTitleAndYear.Reordered byYearAndTitle :=
    .group
      (.cons "title" (.group (.cons "$startsWith" (.leaf _) .nil) (.refl _))
        (.cons "year"
          (.group (.cons "$gt" (.leaf _) (.cons "$lt" (.leaf _) .nil)) (.swap ..)) .nil))
      (.swap ..)
  obtain ⟨hiff, hplans⟩ := Resolver.resolve_of_reordered library.resolver library.catalog.graph
    (0 : Fin 2) .postgres "books" hdistinct hreordered
  obtain ⟨p', hp'⟩ := hiff.mp ⟨_, rfl⟩
  exact ⟨hdistinct, hreordered, _, p', rfl, hp', hplans _ _ rfl hp'⟩

/-- Of two keys that are no fields of books the first is reported. -/
example (f : Filter) :
    planOfBooks (.group [("pages", .entry "$eq" f), ("price", .entry "$eq" f)]) =
      .error (.fieldNotSupported "pages" "Book" ["title", "year", "author"]) ∧
    planOfBooks (.group [("price", .entry "$eq" f), ("pages", .entry "$eq" f)]) =
      .error (.fieldNotSupported "price" "Book" ["title", "year", "author"]) :=
  ⟨rfl, rfl⟩

end Engine

end Sift
