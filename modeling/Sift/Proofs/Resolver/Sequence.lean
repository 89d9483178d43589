import Sift.Proofs.Engine.Atomic

/-!
# Sift.Proofs.Resolver.Sequence

All keys of a filter at once, and one after the other.  Resolving a key looks at nothing of
a scope but its dialect, and a plan only adds clauses behind those that are there; so it
makes no difference whether the plans are added as they are resolved or all at the end,
except where a key fails.

Main statements:

* `applyEach_of_ok`, `applyEach_of_error` — applying keys one after the other resolves them
  in turn and adds the clauses of their plans;
* `sequential` — applying all keys at once agrees with it.
-/

namespace Sift

/-! ## Keys that are looked at -/

/-- The key that an event says is about to be resolved. -/
def Event.key? : Event → Option String
  | .resolving _ field _ => some field
  | _ => none

def Event.keys (events : List Event) : List String := events.filterMap key?

namespace Resolver

variable {M : Type} {r : Resolver} {g : ModelGraph M} {m : M} {dialect : Dialect} {s : Scope}
  {field : String} {f : Filter} {p : Plan M} {x : Fault} {entries : List (String × Filter)}
  {ps : List (Plan M)}

/-- Resolving a key looks at that key and at no other. -/
theorem keys_events_resolve (r : Resolver) (g : ModelGraph M) (m : M) (dialect : Dialect)
    (field : String) (f : Filter) :
    Event.keys (r.resolve g m dialect field f).events = [field] := by
  cases hvalid : r.validate f with
  | error e =>
      simp only [resolve, hvalid]
      rfl
  | ok u =>
      cases hfield : r.registry.lookup field with
      | some e =>
          have hrun := run_dispatch_operator r g dialect hfield f m
          simp only [resolve, hvalid, hrun]
          rfl
      | none =>
          have hleaves : ∀ qs : List (Placement M),
              Event.keys (qs.map (Placement.event 0)) = [] := by
            intro qs
            rw [Event.keys, List.filterMap_map]
            exact List.filterMap_eq_nil_iff.mpr fun _ _ => rfl
          rw [resolve_eq r g m dialect hfield hvalid]
          cases r.tracing with
          | false => rfl
          | true => exact congrArg (field :: ·) (hleaves _)

/-! ## One key -/

/-- A key that is resolved adds the clauses of its plan. -/
theorem apply_of_ok (h : (r.resolve g m s.frame.dialect field f).outcome = .ok p) :
    r.apply g m s field f =
      ⟨(r.resolve g m s.frame.dialect field f).events, .ok (),
        s.extend (Plan.clausesOf g s.frame p.entries)⟩ := by
  have hadd := run_addPlans (List.forall_mem_singleton.mpr (supported_of_resolve h)) s
  rw [List.flatMap_singleton] at hadd
  rw [apply, Reported.bind_of_ok h, addResolved]
  simp only [Reported.outcome_pure, Reported.events_pure, List.append_nil, hadd]

/-- A key that is not resolved leaves the scope alone. -/
theorem apply_of_error (h : (r.resolve g m s.frame.dialect field f).outcome = .error x) :
    r.apply g m s field f =
      ⟨(r.resolve g m s.frame.dialect field f).events, .error x, s⟩ := by
  rw [apply, Reported.bind_of_error h, addResolved]

/-- A key can be applied when it resolves, whatever the scope holds. -/
theorem outcome_apply_eq_ok_iff :
    (r.apply g m s field f).outcome = .ok () ↔
      ∃ p, (r.resolve g m s.frame.dialect field f).outcome = .ok p := by
  cases h : (r.resolve g m s.frame.dialect field f).outcome with
  | error x => simp [apply_of_error h]
  | ok p => simp [apply_of_ok h]

/-- A key is refused exactly if it does not resolve. -/
theorem outcome_apply_eq_error_iff :
    (r.apply g m s field f).outcome = .error x ↔
      (r.resolve g m s.frame.dialect field f).outcome = .error x := by
  cases h : (r.resolve g m s.frame.dialect field f).outcome with
  | error y => simp [apply_of_error h]
  | ok p => simp [apply_of_ok h]

/-! ## One key after the other -/

/-- Apply keys one after the other, up to the first that fails. -/
def applyEach (r : Resolver) (g : ModelGraph M) (m : M) (s : Scope) :
    List (String × Filter) → Applied
  | [] => ⟨[], .ok (), s⟩
  | (field, f) :: rest =>
    let a := r.apply g m s field f
    match a.outcome with
    | .error x => ⟨a.events, .error x, a.scope⟩
    | .ok () =>
      let b := r.applyEach g m a.scope rest
      ⟨a.events ++ b.events, b.outcome, b.scope⟩

/-- Keys that all resolve are applied one after the other by adding the clauses of their
plans. -/
theorem applyEach_of_ok (h : (r.resolveEach g m s.frame.dialect entries).outcome = .ok ps) :
    r.applyEach g m s entries =
      ⟨(r.resolveEach g m s.frame.dialect entries).events, .ok (),
        s.extend (ps.flatMap fun p => Plan.clausesOf g s.frame p.entries)⟩ := by
  induction entries generalizing s ps with
  | nil =>
      cases h
      rw [applyEach, List.flatMap_nil, Scope.extend_nil]
      rfl
  | cons e rest ih =>
      rw [resolveEach] at h ⊢
      obtain ⟨p, hp, hrest⟩ := Reported.outcome_bind_eq_ok_iff.mp h
      obtain ⟨qs, hqs, hps⟩ := Reported.outcome_bind_eq_ok_iff.mp hrest
      obtain rfl : p :: qs = ps := Except.ok.inj hps
      have hnext := ih (s := s.extend (Plan.clausesOf g s.frame p.entries)) hqs
      rw [Reported.bind_of_ok hp, Reported.bind_of_ok hqs, applyEach]
      simp only [apply_of_ok hp, hnext]
      rw [Scope.frame_extend, Scope.extend_extend, List.flatMap_cons, Reported.events_pure,
        List.append_nil]

/-- Where a key fails, nothing more is reported than while all keys are resolved. -/
theorem applyEach_of_error
    (h : (r.resolveEach g m s.frame.dialect entries).outcome = .error x) :
    (r.applyEach g m s entries).outcome = .error x ∧
      (r.applyEach g m s entries).events =
        (r.resolveEach g m s.frame.dialect entries).events := by
  induction entries generalizing s with
  | nil => cases h
  | cons e rest ih =>
      rw [resolveEach] at h ⊢
      cases hp : (r.resolve g m s.frame.dialect e.1 e.2).outcome with
      | error y =>
          rw [Reported.bind_of_error hp] at h ⊢
          obtain rfl : y = x := Except.error.inj h
          simp [applyEach, apply_of_error hp]
      | ok p =>
          rw [Reported.bind_of_ok hp] at h ⊢
          cases hqs : (r.resolveEach g m s.frame.dialect rest).outcome with
          | ok qs =>
              rw [Reported.bind_of_ok hqs] at h
              cases h
          | error y =>
              rw [Reported.bind_of_error hqs] at h ⊢
              obtain rfl : y = x := Except.error.inj h
              have hnext := ih (s := s.extend (Plan.clausesOf g s.frame p.entries)) hqs
              rw [applyEach]
              simp only [apply_of_ok hp]
              exact ⟨hnext.1, congrArg (_ ++ ·) hnext.2⟩

/-! ## All keys at once -/

/-- Where every key resolves, all keys are applied as one after the other. -/
theorem applyAll_of_ok_each
    (h : (r.resolveEach g m s.frame.dialect entries).outcome = .ok ps) :
    r.applyAll g m s (.group entries) = r.applyEach g m s entries := by
  obtain ⟨haccepts, rfl⟩ := outcome_resolveEach_eq_ok_iff.mp h
  rw [applyEach_of_ok h, applyAll_of_accepts haccepts]

/-- Where one does not, nothing is applied. -/
theorem applyAll_of_error_each
    (h : (r.resolveEach g m s.frame.dialect entries).outcome = .error x) :
    r.applyAll g m s (.group entries) =
      ⟨(r.resolveEach g m s.frame.dialect entries).events, .error x, s⟩ := by
  rw [applyAll, Filter.entries?, addResolved]
  simp only [h]

/-- Each key resolves exactly if all of them do. -/
theorem exists_resolveEach_iff :
    (∃ ps, (r.resolveEach g m dialect entries).outcome = .ok ps) ↔
      ∀ e ∈ entries, ∃ p, (r.resolve g m dialect e.1 e.2).outcome = .ok p := by
  simp only [outcome_resolveEach_eq_ok_iff, outcome_resolve_eq_ok_iff, exists_and_left,
    exists_eq, and_true]

/-- The first key that does not resolve is the last that is looked at. -/
theorem resolveEach_of_first {before : List (String × Filter)} {e : String × Filter}
    (hbefore : ∀ b ∈ before, ∃ p, (r.resolve g m dialect b.1 b.2).outcome = .ok p)
    (he : (r.resolve g m dialect e.1 e.2).outcome = .error x) (after : List (String × Filter)) :
    r.resolveEach g m dialect (before ++ e :: after) =
      ⟨(before ++ [e]).flatMap fun b => (r.resolve g m dialect b.1 b.2).events, .error x⟩ := by
  induction before with
  | nil => simp [resolveEach, Reported.bind_of_error he]
  | cons b before ih =>
      obtain ⟨p, hp⟩ := hbefore b List.mem_cons_self
      have hrest := ih fun c hc => hbefore c (List.mem_cons_of_mem b hc)
      rw [List.cons_append, resolveEach, Reported.bind_of_ok hp, hrest,
        Reported.bind_of_error rfl]
      rfl

/-- The keys that are looked at while keys are resolved. -/
theorem keys_flatMap_events (r : Resolver) (g : ModelGraph M) (m : M) (dialect : Dialect)
    (entries : List (String × Filter)) :
    Event.keys (entries.flatMap fun e => (r.resolve g m dialect e.1 e.2).events) =
      Keyed.keys entries := by
  induction entries with
  | nil => rfl
  | cons e rest ih =>
      have he := keys_events_resolve r g m dialect e.1 e.2
      rw [Event.keys] at he ih ⊢
      rw [List.flatMap_cons, List.filterMap_append, he, ih]
      rfl

/-- Applying all keys of a group at once agrees with applying them one after the other. -/
structure Sequential (r : Resolver) (g : ModelGraph M) (m : M) (s : Scope)
    (entries : List (String × Filter)) : Prop where
  /-- All keys are applied exactly if each can be applied by itself. -/
  ok_iff : (r.applyAll g m s (.group entries)).outcome = .ok () ↔
    ∀ e ∈ entries, (r.apply g m s e.1 e.2).outcome = .ok ()
  /-- Then the scope, too, is what it is after one key after the other. -/
  eq_applyEach : (r.applyAll g m s (.group entries)).outcome = .ok () →
    r.applyAll g m s (.group entries) = r.applyEach g m s entries
  /-- The first key that cannot be applied by itself decides, all at once as one after the
  other.  Nothing is added, and no key behind it is looked at. -/
  first_fault : ∀ before e after x, entries = before ++ e :: after →
    (∀ b ∈ before, (r.apply g m s b.1 b.2).outcome = .ok ()) →
    (r.apply g m s e.1 e.2).outcome = .error x →
    (r.applyAll g m s (.group entries)).outcome = .error x ∧
      (r.applyEach g m s entries).outcome = .error x ∧
      (r.applyAll g m s (.group entries)).scope = s ∧
      Event.keys (r.applyAll g m s (.group entries)).events = Keyed.keys before ++ [e.1]
  /-- What is reported is the same in any case. -/
  events : (r.applyAll g m s (.group entries)).events = (r.applyEach g m s entries).events

/-- Whatever the models are, and whatever the scope holds, all keys at once come to the same
as one key after the other. -/
theorem sequential (r : Resolver) (g : ModelGraph M) (m : M) (s : Scope)
    (entries : List (String × Filter)) : r.Sequential g m s entries := by
  constructor
  · simp only [outcome_apply_eq_ok_iff, ← exists_resolveEach_iff]
    cases h : (r.resolveEach g m s.frame.dialect entries).outcome with
    | error x => simp [applyAll_of_error_each h]
    | ok ps => simp [applyAll_of_ok_each h, applyEach_of_ok h]
  · intro hok
    cases h : (r.resolveEach g m s.frame.dialect entries).outcome with
    | error x =>
        rw [applyAll_of_error_each h] at hok
        cases hok
    | ok ps => exact applyAll_of_ok_each h
  · rintro before e after x rfl hbefore he
    simp only [outcome_apply_eq_ok_iff] at hbefore
    rw [outcome_apply_eq_error_iff] at he
    have hfirst := resolveEach_of_first hbefore he after
    have hout := congrArg Reported.outcome hfirst
    rw [applyAll_of_error_each hout]
    refine ⟨rfl, (applyEach_of_error hout).1, rfl, ?_⟩
    rw [hfirst, keys_flatMap_events]
    exact List.map_append
  · cases h : (r.resolveEach g m s.frame.dialect entries).outcome with
    | error x => rw [applyAll_of_error_each h, (applyEach_of_error h).2]
    | ok ps => rw [applyAll_of_ok_each h]

end Resolver

/-! ## An example -/

namespace Engine

/-- One key of a filter on the authors of the library, applied to a query for all of them. -/
def applyToAuthors (field : String) (f : Filter) : Resolver.Applied :=
  library.resolver.apply library.catalog.graph (0 : Fin 2) (.root .postgres "authors") field f

/-- All keys of a filter on the authors of the library, applied to a query for all of them. -/
def applyAllToAuthors (entries : List (String × Filter)) : Resolver.Applied :=
  library.resolver.applyAll library.catalog.graph (0 : Fin 2) (.root .postgres "authors")
    (.group entries)

/-- Two keys are applied as one after the other.  With a key between them that is no field of
authors nothing is applied, and the last key is not looked at. -/
theorem sequential_library :
    let name := ("name", Filter.entry "$eq" (.leaf (.text "Woolf")))
    let born := ("born", Filter.entry "$lt" (.leaf (.int 1900)))
    let books := ("books", Filter.entry "title" (.entry "$like" (.leaf (.text "%Lighthouse%"))))
    (applyToAuthors name.1 name.2).outcome = .ok () ∧
      (applyToAuthors books.1 books.2).outcome = .ok () ∧
      (applyToAuthors born.1 born.2).outcome =
        .error (.fieldNotSupported "born" "Author" ["name", "books"]) ∧
      applyAllToAuthors [name, books] =
        library.resolver.applyEach library.catalog.graph (0 : Fin 2) (.root .postgres "authors")
          [name, books] ∧
      (applyAllToAuthors [name, born, books]).scope = .root .postgres "authors" ∧
      Event.keys (applyAllToAuthors [name, born, books]).events = ["name", "born"] := by
  intro name born books
  have hname : (applyToAuthors name.1 name.2).outcome = .ok () := rfl
  have hbooks : (applyToAuthors books.1 books.2).outcome = .ok () := rfl
  have hborn : (applyToAuthors born.1 born.2).outcome =
      .error (.fieldNotSupported "born" "Author" ["name", "books"]) := rfl
  have htwo := Resolver.sequential library.resolver library.catalog.graph (0 : Fin 2)
    (.root .postgres "authors") [name, books]
  have hfirst := (Resolver.sequential library.resolver library.catalog.graph (0 : Fin 2)
    (.root .postgres "authors") _).first_fault [name] born [books] _ rfl
    (List.forall_mem_singleton.mpr hname) hborn
  refine ⟨hname, hbooks, hborn, htwo.eq_applyEach (htwo.ok_iff.mpr ?_), hfirst.2.2.1,
    hfirst.2.2.2⟩
  exact List.forall_mem_cons.mpr ⟨hname, List.forall_mem_singleton.mpr hbooks⟩

end Engine

end Sift
