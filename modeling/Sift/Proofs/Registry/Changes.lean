import Sift.Proofs.Keyed
import Sift.Proofs.Registry.Selection

/-!
# Sift.Proofs.Registry.Changes

Registries over whole runs.  A host registers operators and narrows its registry in any
order.  What stands in the registry then is what it started with and what has been
registered since, oldest first and as it was given, as far as every later narrowing has
kept it.

Main statements:

* `registered_insert` — what an operator is entered as, and that a symbol that is taken
  changes nothing;
* `Change.entries_of_ok` — a change that goes through keeps entries, then adds one;
* `Change.registry_of_error` — one that is refused leaves the registry as it was;
* `entries_after` — so what stands in a registry follows from the changes that went through;
* `laws_after` — what is known of every registry that changes lead to, and of narrowing it.
-/

namespace Sift.Registry

variable {r n : Registry}

/-! ## Registering -/

/-- What is known of registering an operator under a symbol: a built-in one, or a host's own
strategy, which has no kind. -/
structure Registered (r : Registry) (symbol : String) (kind : Option Operator)
    (strategy : Strategy) (changed : Changed) : Prop where
  /-- Under a symbol that is taken it is refused, and the registry stays as it is. -/
  taken : symbol ∈ r.symbols →
    changed.outcome = .error (.duplicateOperator symbol) ∧ changed.registry = r
  /-- Under any other it is entered behind everything else, with what is given. -/
  free : symbol ∉ r.symbols → changed.outcome = .ok () ∧
    changed.registry.entries = r.entries ++ [(symbol, ⟨symbol, kind, strategy⟩)]

/-- An operator is entered as it is given, unless its symbol is taken. -/
theorem registered_insert (r : Registry) (symbol : String) (kind : Option Operator)
    (strategy : Strategy) :
    Registered r symbol kind strategy (r.insert symbol kind strategy) where
  taken h := by
    rw [insert, if_pos (contains_iff.mpr h)]
    exact ⟨rfl, rfl⟩
  free h := by
    rw [insert, if_neg (mt contains_iff.mp h)]
    exact ⟨rfl, Keyed.put_of_not_mem _ h⟩

/-! ## Single changes -/

/-- What a host does to a registry. -/
inductive Change where
  /-- Register a built-in operator under a symbol. -/
  | register (symbol : String) (op : Operator)
  /-- Register a strategy of its own under a symbol. -/
  | registerCustom (symbol : String) (strategy : Strategy)
  /-- Narrow the registry. -/
  | only (references : List Reference)

namespace Change

/-- What becomes of a registry.  One that cannot be narrowed stays in place. -/
def result (r : Registry) : Change → Changed
  | register symbol op => r.register symbol op
  | registerCustom symbol strategy => r.registerCustom symbol strategy
  | only references =>
    match r.only references with
    | .ok n => ⟨[], .ok (), n⟩
    | .error fault => ⟨[], .error fault, r⟩

/-- Whether a change goes through. -/
def succeeds (r : Registry) (c : Change) : Bool := (c.result r).outcome.isOk

/-- The operator that a change adds, under its symbol. -/
def added? : Change → Option (String × Entry)
  | register symbol op => some (symbol, ⟨symbol, some op, op.build⟩)
  | registerCustom symbol strategy => some (symbol, ⟨symbol, none, strategy⟩)
  | only _ => none

/-- Whether a change keeps what stands under a symbol. -/
def keeps : Change → String × Entry → Bool
  | only references, e => references.any (·.selects e)
  | _, _ => true

/-- A change that adds an operator registers it, and keeps everything. -/
theorem registered_of_added {c : Change} {e : String × Entry} (h : c.added? = some e) :
    ∃ symbol kind strategy, e = (symbol, ⟨symbol, kind, strategy⟩) ∧
      Registered r symbol kind strategy (c.result r) ∧ ∀ x, c.keeps x = true := by
  cases c with
  | register symbol op =>
      cases h
      exact ⟨symbol, some op, op.build, rfl, registered_insert _ _ _ _, fun _ => rfl⟩
  | registerCustom symbol strategy =>
      cases h
      exact ⟨symbol, none, strategy, rfl, registered_insert _ _ _ _, fun _ => rfl⟩
  | only references => cases h

/-- A change that adds nothing narrows the registry. -/
theorem exists_only_of_added {c : Change} (h : c.added? = none) :
    ∃ references, c = only references := by
  cases c with
  | register symbol op => cases h
  | registerCustom symbol strategy => cases h
  | only references => exact ⟨references, rfl⟩

/-- A change that goes through keeps some of what is there in its order, and adds its own
behind. -/
theorem entries_of_ok {c : Change} (h : (c.result r).outcome = .ok ()) :
    (c.result r).registry.entries = r.entries.filter c.keeps ++ c.added?.toList := by
  cases hc : c.added? with
  | some e =>
      obtain ⟨symbol, kind, strategy, rfl, hregistered, hkeeps⟩ := registered_of_added (r := r) hc
      have hnew : symbol ∉ r.symbols := by
        intro htaken
        rw [(hregistered.taken htaken).1] at h
        cases h
      rw [(hregistered.free hnew).2, List.filter_eq_self.mpr fun x _ => hkeeps x]
      rfl
  | none =>
      obtain ⟨references, rfl⟩ := exists_only_of_added hc
      rw [result] at h ⊢
      cases hn : r.only references with
      | ok n =>
          obtain ⟨-, rfl⟩ := only_eq_ok_iff.mp hn
          exact (List.append_nil _).symm
      | error fault =>
          rw [hn] at h
          cases h

/-- A change that is refused leaves the registry as it was. -/
theorem registry_of_error {c : Change} {fault : Fault}
    (h : (c.result r).outcome = .error fault) : (c.result r).registry = r := by
  cases hc : c.added? with
  | some e =>
      obtain ⟨symbol, kind, strategy, rfl, hregistered, -⟩ := registered_of_added (r := r) hc
      by_cases htaken : symbol ∈ r.symbols
      · exact (hregistered.taken htaken).2
      · rw [(hregistered.free htaken).1] at h
        cases h
  | none =>
      obtain ⟨references, rfl⟩ := exists_only_of_added hc
      rw [result] at h ⊢
      cases hn : r.only references with
      | ok n =>
          rw [hn] at h
          cases h
      | error fault => rfl

end Change

/-! ## Changes in turn -/

/-- The registry after some changes, each made to what the one before it left. -/
def after (r : Registry) (changes : List Change) : Registry :=
  changes.foldl (fun r c => (c.result r).registry) r

/-- The changes that go through. -/
def succeeded (r : Registry) : List Change → List Change
  | [] => []
  | c :: cs =>
    let later := (c.result r).registry.succeeded cs
    if c.succeeds r then c :: later else later

/-- What changes add and every later one keeps, oldest first. -/
def lasting : List Change → List (String × Entry)
  | [] => []
  | c :: cs => (c.added?.toList.filter fun e => cs.all (·.keeps e)) ++ lasting cs

/-- What stands in a registry is what it started with and what has been added since, as far
as everything later has kept it. -/
theorem entries_after (r : Registry) (cs : List Change) :
    (r.after cs).entries =
      (r.entries.filter fun e => (r.succeeded cs).all (·.keeps e)) ++
        lasting (r.succeeded cs) := by
  induction cs generalizing r with
  | nil => simp [after, succeeded, lasting, List.filter_eq_self.mpr]
  | cons c cs ih =>
      have hnext : r.after (c :: cs) = (c.result r).registry.after cs := rfl
      rw [hnext, succeeded, Change.succeeds]
      cases houtcome : (c.result r).outcome with
      | ok u =>
          simp only [Except.isOk, Except.toBool, if_true, ih, Change.entries_of_ok houtcome,
            lasting, List.all_cons, List.filter_append, List.filter_filter, List.append_assoc]
          simp only [Bool.and_comm]
      | error fault =>
          rw [Change.registry_of_error houtcome]
          exact ih r

/-- The registry of the built-in operators is what registering each in turn leads to. -/
theorem defaults_eq_after :
    defaults = empty.after (Operator.all.map fun op => .register op.symbol op) :=
  eq_of_entries_eq rfl

/-! ## Laws -/

/-- What is known of the registry that changes lead to. -/
structure Orderly (start : Registry) (changes : List Change) : Prop where
  /-- No symbol is registered twice. -/
  distinct : (start.after changes).symbols.Nodup
  /-- What is registered stands in the order of registration, as it was given. -/
  order : (start.after changes).entries =
    (start.entries.filter fun e => (start.succeeded changes).all (·.keeps e)) ++
      lasting (start.succeeded changes)
  /-- What is found under a symbol is what stands under it, -/
  lookup : ∀ symbol e, (start.after changes).lookup symbol = some e ↔
    (symbol, e) ∈ (start.after changes).entries
  /-- and it knows that symbol. -/
  named : ∀ symbol e, (start.after changes).lookup symbol = some e → e.symbol = symbol
  /-- A built-in operator can be registered under a symbol that is not taken. -/
  register : ∀ symbol op, Registered (start.after changes) symbol (some op) op.build
    ((start.after changes).register symbol op)
  /-- So can a strategy, which then has no kind. -/
  registerCustom : ∀ symbol strategy, Registered (start.after changes) symbol none strategy
    ((start.after changes).registerCustom symbol strategy)
  /-- A change that is refused leaves the registry as it was. -/
  refused : ∀ (c : Change) (fault : Fault),
    (c.result (start.after changes)).outcome = .error fault →
    start.after (changes ++ [c]) = start.after changes

/-- What is known of narrowing a registry to some references. -/
structure Selective (r : Registry) (references : List Reference) : Prop where
  /-- It fails exactly if a reference selects nothing. -/
  fails_iff : (∃ fault, r.only references = .error fault) ↔
    ∃ ref ∈ references, ∀ e ∈ r.entries, ref.selects e = false
  /-- The first such reference is named, by its symbol. -/
  fault : ∀ fault, r.only references = .error fault ↔
    ∃ front ref back, references = front ++ ref :: back ∧
      (∀ known ∈ front, ∃ e ∈ r.entries, known.selects e = true) ∧
      (∀ e ∈ r.entries, ref.selects e = false) ∧
      fault = .unknownOperator (match ref with | .symbol s => s | .kind op => op.symbol)
  /-- Otherwise the selected entries are kept, in their order. -/
  kept : ∀ n, r.only references = .ok n ↔
    (∀ ref ∈ references, ∃ e ∈ r.entries, ref.selects e = true) ∧
      n.entries = r.entries.filter fun e => references.any (·.selects e)
  /-- Only the set of the references matters. -/
  as_set : ∀ others : List Reference, (∀ ref, ref ∈ references ↔ ref ∈ others) →
    ∀ n, r.only references = .ok n ↔ r.only others = .ok n
  /-- Narrowing again changes nothing. -/
  again : ∀ n, r.only references = .ok n → n.only references = .ok n
  /-- Symbols that are left select from the narrowed registry what they select from the
  whole. -/
  further : ∀ n, r.only references = .ok n → ∀ symbols : List String,
    (∀ s ∈ symbols, s ∈ n.symbols) →
    ∃ k, n.only (symbols.map .symbol) = .ok k ∧ r.only (symbols.map .symbol) = .ok k

/-- Whatever the changes are, what is registered is in order. -/
theorem orderly_after (start : Registry) (changes : List Change) : Orderly start changes where
  distinct := (start.after changes).distinct
  order := entries_after start changes
  lookup _ _ := lookup_eq_some_iff
  named _ _ := symbol_of_lookup
  register symbol op := registered_insert _ symbol (some op) op.build
  registerCustom symbol strategy := registered_insert _ symbol none strategy
  refused c fault h := by
    rw [after, List.foldl_append]
    exact Change.registry_of_error h

/-- A reference is unknown if it selects nothing of what is registered. -/
theorem unknown_iff {ref : Reference} :
    ¬ ref.KnownIn r ↔ ∀ e ∈ r.entries, ref.selects e = false := by
  simp [Reference.KnownIn]

/-- Whatever the registry and the references are, narrowing selects. -/
theorem selective_only (r : Registry) (references : List Reference) :
    Selective r references where
  fails_iff := by
    simp only [← unknown_iff]
    constructor
    · rintro ⟨fault, h⟩
      obtain ⟨front, ref, back, rfl, -, href, -⟩ := only_eq_error_iff.mp h
      exact ⟨ref, List.mem_append_right _ List.mem_cons_self, href⟩
    · rintro ⟨ref, hmem, href⟩
      rcases known_or_unknown r references with hknown | ⟨front, x, back, rfl, hfront, hx⟩
      · exact absurd (hknown ref hmem) href
      · exact ⟨_, only_of_unknown hfront hx⟩
  fault fault := by
    simp only [← unknown_iff]
    exact only_eq_error_iff
  kept n := by
    rw [only_eq_ok_iff, ← entries_selected]
    exact and_congr_right fun _ => ⟨fun h => h ▸ rfl, eq_of_entries_eq⟩
  as_set others h n := only_congr h
  again n := only_again
  further n h symbols hsymbols := by
    have hnarrowed := only_of_known (known_of_symbols hsymbols)
    exact ⟨_, hnarrowed, (symbols_only h hsymbols).symm.trans hnarrowed⟩

/-- What is known of every registry that changes lead to, and of narrowing it.  The built-in
operators are themselves such a registry. -/
theorem laws_after :
    defaults = empty.after (Operator.all.map fun op => .register op.symbol op) ∧
    ∀ (start : Registry) (changes : List Change),
      Orderly start changes ∧ ∀ references, Selective (start.after changes) references :=
  ⟨defaults_eq_after, fun start changes => ⟨orderly_after start changes, selective_only _⟩⟩

/-- An operator under a second symbol, another one refused under it, and a strategy of a host's
own. -/
def aliases : List Change :=
  [.register "is" .equals, .register "is" .notEquals,
    .registerCustom "own" fun inv => .ok (.null inv.column true)]

/-- What is given is registered, and what is refused changes nothing.  By the operator both of
its symbols are kept, and the strategy by its symbol. -/
theorem laws_after_aliases :
    let r := defaults.after aliases
    let references : List Reference := [.symbol "own", .kind .equals]
    r.entries = defaults.entries ++
        [("is", ⟨"is", some .equals, Operator.build .equals⟩),
          ("own", ⟨"own", none, fun inv => .ok (.null inv.column true)⟩)] ∧
      (r.register "is" .notEquals).registry = r ∧
      (∃ n, r.only references = .ok n ∧ n.symbols = ["$eq", "is", "own"] ∧
        n.only references = .ok n) ∧
      r.only [.kind .equals, .symbol "none", .symbol "nil"] = .error (.unknownOperator "none") := by
  intro r references
  obtain ⟨horderly, hselective⟩ := laws_after.2 defaults aliases
  have htaken : "is" ∈ (defaults.after aliases).symbols := by decide
  have hnarrowed : r.only references = .ok _ := rfl
  have hequals : ∃ e ∈ (defaults.after aliases).entries,
      (Reference.kind .equals).selects e = true := by decide
  have hnone : ∀ e ∈ (defaults.after aliases).entries,
      (Reference.symbol "none").selects e = false := by decide
  refine ⟨horderly.order, ((horderly.register "is" .notEquals).taken htaken).2,
    ⟨_, hnarrowed, rfl, (hselective references).again _ hnarrowed⟩, ?_⟩
  exact ((hselective _).fault _).mpr
    ⟨[.kind .equals], .symbol "none", [.symbol "nil"], rfl,
      List.forall_mem_singleton.mpr hequals, hnone, rfl⟩

end Sift.Registry
