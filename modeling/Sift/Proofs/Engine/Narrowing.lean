import Sift.Proofs.Engine.Filter

/-!
# Sift.Proofs.Engine.Narrowing

Fewer operators.  In a narrowed registry a symbol that is no longer registered is read as
the name of a field.  Where no field of any model is called like an operator, such a name is
refused wherever it stands: at the top of a filter and under an operator's field the key is
looked for among the fields of the model there.  So what is still accepted has been read as
before.

Main statements:

* `Registry.narrows_of_only` — what a narrowed registry finds, the whole one finds too;
* `Resolver.accepts_of_narrows` — with fewer operators no more is accepted, and the same is
  gathered;
* `Engine.filter_of_narrows` — an engine with fewer operators makes the same queries or none.
-/

namespace Sift

/-! ## Narrowed registries -/

namespace Registry

/-- Every operator of a registry stands in another one under the same symbol. -/
def Narrows (n r : Registry) : Prop :=
  ∀ symbol e, n.lookup symbol = some e → r.lookup symbol = some e

theorem Narrows.refl (r : Registry) : r.Narrows r := fun _ _ h => h

/-- A registry with some of the entries has the operators of these entries. -/
theorem lookup_restrict_eq_some_iff {r : Registry} {keep : String × Entry → Bool}
    {symbol : String} {e : Entry} :
    (r.restrict keep).lookup symbol = some e ↔
      r.lookup symbol = some e ∧ keep (symbol, e) = true := by
  rw [lookup_eq_some_iff, lookup_eq_some_iff, restrict, List.mem_filter]

/-- What a narrowed registry finds, the whole one finds too. -/
theorem narrows_of_only {r n : Registry} {references : List Reference}
    (h : r.only references = .ok n) : n.Narrows r := by
  obtain ⟨kept, -, h⟩ := except_bind_eq_ok_iff.mp h
  cases h
  intro symbol e he
  exact (lookup_restrict_eq_some_iff.mp he).1

/-- A symbol of a narrowed registry is one of the whole registry. -/
theorem Narrows.mem_symbols {n r : Registry} (h : n.Narrows r) {symbol : String}
    (hsymbol : symbol ∈ n.symbols) : symbol ∈ r.symbols := by
  rw [← contains_iff, contains, Option.isSome_iff_exists] at hsymbol ⊢
  exact hsymbol.imp fun e he => h symbol e he

end Registry

/-! ## Resolving with fewer operators -/

namespace ModelGraph

variable {M : Type}

/-- No field of any model is called like an operator. -/
def Unmistakable (g : ModelGraph M) (r : Registry) : Prop :=
  ∀ m, ∀ field ∈ g.fields m, field ∉ r.symbols

end ModelGraph

namespace Resolver

variable {M : Type} {r : Resolver} {g : ModelGraph M} {dialect : Dialect} {n : Registry}

def withRegistry (r : Resolver) (n : Registry) : Resolver := { r with registry := n }

/-- A field under which a filter is accepted is one of the model. -/
theorem mem_fields_of_accepts {m : M} {field : String} {f : Filter}
    (h : r.Accepts g dialect m field f) : field ∈ g.fields m := by
  cases f with
  | leaf v => simp [Accepts] at h
  | group entries =>
      rw [Accepts] at h
      cases entries with
      | nil => exact absurd rfl h.2.1
      | cons e rest =>
          have heach := h.2.2
          rw [AcceptsEach] at heach
          exact heach.1.1

mutual

/-- What is accepted with fewer operators is accepted with all of them, and the same is
gathered from it. -/
theorem accepts_of_narrows (hn : n.Narrows r.registry) (hg : g.Unmistakable r.registry) (m : M)
    (field : String) : (f : Filter) →
    (r.withRegistry n).Accepts g dialect m field f →
    r.Accepts g dialect m field f ∧
      r.gather g dialect m field f = (r.withRegistry n).gather g dialect m field f
  | .leaf v, h => by simp [Accepts] at h
  | .group entries, h => by
      have hfield := hg m field (mem_fields_of_accepts h)
      rw [Accepts] at h ⊢
      obtain ⟨-, hne, heach⟩ := h
      obtain ⟨haccepts, hgather⟩ := acceptsEach_of_narrows hn hg m field entries heach
      refine ⟨⟨hfield, hne, haccepts⟩, ?_⟩
      have hempty : ¬ entries.isEmpty = true := by simpa using hne
      rw [gather, gather, if_neg hempty, if_neg hempty, hgather]

/-- The same holds of entries under a field. -/
theorem acceptsEach_of_narrows (hn : n.Narrows r.registry) (hg : g.Unmistakable r.registry)
    (m : M) (field : String) : (entries : List (String × Filter)) →
    (r.withRegistry n).AcceptsEach g dialect m field entries →
    r.AcceptsEach g dialect m field entries ∧
      r.gatherEach g dialect m field entries =
        (r.withRegistry n).gatherEach g dialect m field entries
  | [], _ => by simp [AcceptsEach, gatherEach]
  | (key, f) :: rest, h => by
      rw [AcceptsEach] at h
      obtain ⟨hpermits, hf, hrest⟩ := h
      obtain ⟨haccepts, hgather⟩ := acceptsEach_of_narrows hn hg m field rest hrest
      rw [AcceptsEach, gatherEach, gatherEach, hgather]
      cases hkey : (r.withRegistry n).registry.lookup key with
      | some e =>
          -- An operator that is left is still the same.
          rw [hkey] at hf
          rw [hn key e hkey]
          exact ⟨⟨hpermits, hf, haccepts⟩, rfl⟩
      | none =>
          -- Any other key is a field of the related model, and so was never an operator.
          rw [hkey] at hf
          obtain ⟨related, join, hrel, hrelated⟩ := hf
          have hnone := lookup_eq_none_iff.mpr (hg related key (mem_fields_of_accepts hrelated))
          obtain ⟨hall, hsame⟩ := accepts_of_narrows hn hg related key f hrelated
          rw [hnone, hrel]
          exact ⟨⟨hpermits, ⟨related, join, rfl, hall⟩, haccepts⟩, by simp only [hsame]⟩

end

/-- What is resolved with fewer operators is resolved with all of them, to the same plan. -/
theorem resolve_of_narrows (hn : n.Narrows r.registry) (hg : g.Unmistakable r.registry) {m : M}
    {field : String} {f : Filter} {p : Plan M}
    (h : ((r.withRegistry n).resolve g m dialect field f).outcome = .ok p) :
    (r.resolve g m dialect field f).outcome = .ok p := by
  obtain ⟨haccepts, rfl⟩ := outcome_resolve_eq_ok_iff.mp h
  obtain ⟨hall, hsame⟩ := accepts_of_narrows hn hg m field f haccepts
  exact outcome_resolve_eq_ok_iff.mpr ⟨hall, by rw [hsame]⟩

/-- What is applied with fewer operators is applied with all of them, to the same end. -/
theorem applyAll_of_narrows (hn : n.Narrows r.registry) (hg : g.Unmistakable r.registry) {m : M}
    {s : Scope} {f : Filter} (h : ((r.withRegistry n).applyAll g m s f).outcome = .ok ()) :
    (r.applyAll g m s f).outcome = .ok () ∧
      (r.applyAll g m s f).scope = ((r.withRegistry n).applyAll g m s f).scope := by
  obtain ⟨entries, rfl, haccepts, hscope⟩ := applyAll_of_ok h
  have hall (e : String × Filter) (he : e ∈ entries) :=
    accepts_of_narrows hn hg m e.1 e.2 (haccepts e he)
  have hplans : r.plansOf g s.frame.dialect m entries =
      (r.withRegistry n).plansOf g s.frame.dialect m entries :=
    List.map_congr_left fun e he => by rw [(hall e he).2]
  rw [hscope, ← hplans, applyAll_of_accepts fun e he => (hall e he).1]
  exact ⟨rfl, rfl⟩

end Resolver

/-! ## Engines with fewer operators -/

namespace Catalog

variable {c : Catalog} {r n : Registry}

/-- A catalog that fits a registry fits every registry with more operators. -/
theorem checkOperators_of_narrows (hn : n.Narrows r) (h : c.checkOperators n = .ok ()) :
    c.checkOperators r = .ok () := by
  have hnone := Problem.check_eq_ok_iff.mp h
  refine Problem.check_eq_ok_iff.mpr ?_
  simp only [unknownOperators, List.flatMap_eq_nil_iff, List.map_eq_nil_iff,
    List.filter_eq_nil_iff, Bool.not_eq_true, Bool.not_eq_false', Registry.contains_iff]
    at hnone ⊢
  exact fun d hd e he symbol hsymbol => hn.mem_symbols (hnone d hd e he symbol hsymbol)

end Catalog

namespace Engine

variable {r : Resolver} {c : Catalog} {dialect : Dialect} {n : Registry}

/-- An engine is put together of its parts if they fit. -/
theorem new_eq_ok_iff {e : Engine} :
    new r c dialect = .ok e ↔ c.checkOperators r.registry = .ok () ∧ e = ⟨r, c, dialect⟩ := by
  rw [new, except_bind_eq_ok_iff]
  constructor
  · rintro ⟨u, hcheck, he⟩
    exact ⟨hcheck, (Except.ok.inj he).symm⟩
  · rintro ⟨hcheck, rfl⟩
    exact ⟨(), hcheck, rfl⟩

def withRegistry (e : Engine) (n : Registry) : Engine :=
  { e with resolver := e.resolver.withRegistry n }

/-- An engine with fewer operators makes the same queries or none. -/
theorem filter_of_narrows {e : Engine} (hn : n.Narrows e.resolver.registry)
    (hc : e.catalog.graph.Unmistakable e.resolver.registry) {name : String} {f : Filter}
    {s : Scope} (h : ((e.withRegistry n).filter name f).outcome = .ok s) :
    (e.filter name f).outcome = .ok s := by
  obtain ⟨m, hm, hok, rfl⟩ := filter_eq_ok_iff.mp h
  exact filter_eq_ok_iff.mpr ⟨m, hm, Resolver.applyAll_of_narrows hn hc hok⟩

/-! ## Configured operators -/

/-- The engine of a configuration has the operators, the models and the dialect that it asks for.
-/
theorem ofConfig_eq_ok_iff {settings : Logging.Settings} {config : Config} {e : Engine} :
    (ofConfig settings config).outcome = .ok e ↔
      ∃ registry catalog, config.registry = .ok registry ∧ config.catalog.outcome = .ok catalog ∧
        new ⟨registry, (config.applyLogging settings).debugging⟩ catalog config.dialect = .ok e := by
  simp only [ofConfig, Reported.outcome_bind_eq_ok_iff, Reported.outcome_ofExcept,
    Reported.outcome_report, Reported.outcome_pure, except_mapError_eq_ok_iff]
  constructor
  · rintro ⟨registry, hregistry, catalog, hcatalog, e', hnew, _, -, he⟩
    exact ⟨registry, catalog, hregistry, hcatalog, hnew.trans he⟩
  · rintro ⟨registry, catalog, hregistry, hcatalog, hnew⟩
    exact ⟨registry, hregistry, catalog, hcatalog, e, hnew, (), trivial, rfl⟩

/-- The operators of a configuration are some of the built-in ones. -/
theorem narrows_of_registry {config : Config} {n : Registry} (h : config.registry = .ok n) :
    n.Narrows .defaults := by
  rw [Config.registry] at h
  split at h
  · cases h
    exact .refl _
  · exact Registry.narrows_of_only h

/-- Fewer operators only restrict, where no field is called like an operator: a filter is
resolved as it would be with all of them, or not at all.  So the operators that a
configuration enables change no query that its engine makes. -/
theorem only_restricts :
    (∀ (r : Resolver) (references : List Registry.Reference) (n : Registry),
      r.registry.only references = .ok n → ∀ c : Catalog,
      (∀ d ∈ c.declarations, ∀ field ∈ d.fields, field ∉ r.registry.symbols) →
      ∀ m dialect field f p,
        ((r.withRegistry n).resolve c.graph m dialect field f).outcome = .ok p →
        (r.resolve c.graph m dialect field f).outcome = .ok p) ∧
    ∀ (settings : Logging.Settings) (config : Config) (e : Engine),
      (ofConfig settings config).outcome = .ok e →
      (∀ d ∈ e.catalog.declarations, ∀ field ∈ d.fields, field ∉ Registry.defaults.symbols) →
      ∃ full, (ofConfig settings { config with operators := none }).outcome = .ok full ∧
        ∀ name f s, (e.filter name f).outcome = .ok s → (full.filter name f).outcome = .ok s := by
  constructor
  · intro r references n hn c hfields m dialect field f p h
    refine Resolver.resolve_of_narrows (Registry.narrows_of_only hn) ?_ h
    exact fun m field hfield => hfields (c.declaration m) (List.getElem_mem m.isLt) field hfield
  · intro settings config e he hfields
    obtain ⟨n, c, hregistry, hcatalog, hnew⟩ := ofConfig_eq_ok_iff.mp he
    obtain ⟨hcheck, rfl⟩ := new_eq_ok_iff.mp hnew
    have hn := narrows_of_registry hregistry
    have hall := Catalog.checkOperators_of_narrows hn hcheck
    refine ⟨⟨⟨.defaults, (config.applyLogging settings).debugging⟩, c, config.dialect⟩,
      ofConfig_eq_ok_iff.mpr ⟨.defaults, c, rfl, hcatalog, new_eq_ok_iff.mpr ⟨hall, rfl⟩⟩,
      fun name f s h => filter_of_narrows hn ?_ h⟩
    exact fun m field hfield => hfields (c.declaration m) (List.getElem_mem m.isLt) field hfield

/-- The built-in operators but for all except equality. -/
def equalityOnly : Registry := Registry.defaults.restrict fun e => e.1 = "$eq"

/-- Books that may be asked for by equality only. -/
def shelf : Config :=
  { Config.default with
    operators := some ["$eq"]
    models := [("Book", ⟨none, "id", ["title"], [], []⟩)] }

/-- The engine of that configuration. -/
def ofShelf : Engine :=
  ⟨⟨equalityOnly, false⟩, .ofChecked [⟨"Book", none, "id", ["title"], [], []⟩], shelf.dialect⟩

/-- The configuration makes that engine. -/
theorem ofConfig_shelf : (ofConfig ⟨.empty, false⟩ shelf).outcome = .ok ofShelf := by
  refine ofConfig_eq_ok_iff.mpr ⟨equalityOnly, ofShelf.catalog, rfl, ?_, rfl⟩
  rw [Config.catalog, Reported.outcome_bind_eq_ok_iff]
  refine ⟨_, rfl, Catalog.outcome_build_eq_ok_iff.mpr ⟨by decide, ?_, rfl⟩⟩
  simp only [Declaration.problems_eq_nil_iff]
  decide

/-- A filter by equality is resolved, and makes the same query, with every operator. -/
theorem only_restricts_library :
    (Registry.defaults.only [.symbol "$eq"] = .ok equalityOnly ∧
      (∀ d ∈ library.catalog.declarations, ∀ field ∈ d.fields,
        field ∉ library.resolver.registry.symbols) ∧
      ((library.resolver.withRegistry equalityOnly).resolve library.catalog.graph (0 : Fin 2)
        .postgres "name" (.entry "$eq" (.leaf (.text "Woolf")))).outcome =
        .ok ⟨[.condition (.compare "name" .eq (.text "Woolf"))]⟩ ∧
      (library.resolver.resolve library.catalog.graph (0 : Fin 2) .postgres "name"
        (.entry "$eq" (.leaf (.text "Woolf")))).outcome =
        .ok ⟨[.condition (.compare "name" .eq (.text "Woolf"))]⟩) ∧
    (ofConfig ⟨.empty, false⟩ shelf).outcome = .ok ofShelf ∧
      (∀ d ∈ ofShelf.catalog.declarations, ∀ field ∈ d.fields,
        field ∉ Registry.defaults.symbols) ∧
      ∃ full, (ofConfig ⟨.empty, false⟩ { shelf with operators := none }).outcome = .ok full ∧
        (full.filter "Book"
          (.entry "title" (.entry "$eq" (.leaf (.text "Orlando"))))).outcome =
          .ok ⟨.root shelf.dialect "books",
            [.condition (.compare "title" .eq (.text "Orlando"))]⟩ := by
  have honly : Registry.defaults.only [.symbol "$eq"] = .ok equalityOnly := rfl
  have hlibrary : ∀ d ∈ library.catalog.declarations, ∀ field ∈ d.fields,
      field ∉ library.resolver.registry.symbols := by decide
  have hshelf : ∀ d ∈ ofShelf.catalog.declarations, ∀ field ∈ d.fields,
      field ∉ Registry.defaults.symbols := by decide
  obtain ⟨full, hfull, hfilter⟩ := only_restricts.2 _ _ _ ofConfig_shelf hshelf
  refine ⟨⟨honly, hlibrary, rfl, ?_⟩, ofConfig_shelf, hshelf, full, hfull, hfilter _ _ _ rfl⟩
  exact only_restricts.1 library.resolver _ _ honly library.catalog hlibrary (0 : Fin 2) _ _ _ _
    rfl

end Engine

end Sift
