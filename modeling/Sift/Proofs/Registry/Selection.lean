import Sift.Proofs.Reported
import Sift.Registry

/-!
# Sift.Proofs.Registry.Selection

What references select from a registry.  A reference is looked up by symbol or by operator,
yet what is kept are symbols; since symbols are distinct and every entry knows its own, both
come to the same entries.

Main statements:

* `mem_symbolsIn_iff` — a reference selects an entry exactly if it selects the symbol of it;
* `only_eq_ok_iff` — a registry is narrowed if every reference is known in it, and keeps the
  selected entries;
* `only_eq_error_iff` — it is not narrowed exactly for the first reference that is unknown;
* `symbols_only` — symbols of a narrowed registry select from it what they select from the
  whole.
-/

namespace Sift.Registry

variable {r n : Registry}

/-- A registry is known by its entries. -/
theorem eq_of_entries_eq (h : n.entries = r.entries) : n = r := by
  cases n
  cases r
  cases h
  rfl

/-- What stands under a symbol is known by it. -/
theorem eq_of_key_eq {e x : String × Entry} (he : e ∈ r.entries) (hx : x ∈ r.entries)
    (h : x.1 = e.1) : x = e := by
  obtain ⟨symbol, entry⟩ := e
  obtain ⟨_, other⟩ := x
  cases h
  have hfound := lookup_eq_some_iff.mpr hx
  rw [lookup_eq_some_iff.mpr he] at hfound
  rw [Option.some.inj hfound]

/-! ## References -/

/-- Whether a reference selects what stands under a symbol: a symbol selects what is
registered under it, an operator everything that it is behind. -/
def Reference.selects : Reference → String × Entry → Bool
  | .symbol s, e => e.1 = s
  | .kind op, e => e.2.kind = some op

/-- A reference is known in a registry if it selects something there. -/
def Reference.KnownIn (r : Registry) (ref : Reference) : Prop :=
  ∃ e ∈ r.entries, ref.selects e = true

/-- A reference selects what stands under a symbol exactly if it selects the symbol. -/
theorem mem_symbolsIn_iff {ref : Reference} {e : String × Entry} (he : e ∈ r.entries) :
    e.1 ∈ ref.symbolsIn r ↔ ref.selects e = true := by
  cases ref with
  | symbol s =>
      rw [Reference.symbolsIn, Reference.selects, decide_eq_true_iff]
      constructor
      · intro h
        split at h
        · exact List.mem_singleton.mp h
        · simp at h
      · rintro rfl
        have hknown : r.contains e.1 = true := contains_iff.mpr (List.mem_map_of_mem he)
        rw [if_pos hknown]
        exact List.mem_singleton_self _
  | kind op =>
      rw [Reference.symbolsIn, Reference.selects, decide_eq_true_iff, List.mem_map]
      constructor
      · rintro ⟨x, hx, hsymbol⟩
        obtain ⟨hmem, hkind⟩ := List.mem_filter.mp hx
        have hkey : x.1 = e.1 := (r.named x hmem).symm.trans hsymbol
        exact eq_of_key_eq he hmem hkey ▸ of_decide_eq_true hkind
      · intro h
        exact ⟨e, List.mem_filter.mpr ⟨he, decide_eq_true h⟩, r.named e he⟩

/-- Only symbols of the registry are selected. -/
theorem mem_symbols_of_mem_symbolsIn {ref : Reference} {s : String} (h : s ∈ ref.symbolsIn r) :
    s ∈ r.symbols := by
  cases ref with
  | symbol s' =>
      rw [Reference.symbolsIn] at h
      split at h
      · next hs => exact List.mem_singleton.mp h ▸ contains_iff.mp hs
      · simp at h
  | kind op =>
      obtain ⟨e, he, rfl⟩ := List.mem_map.mp h
      have hmem := (List.mem_filter.mp he).1
      exact r.named e hmem ▸ List.mem_map_of_mem hmem

/-- A reference selects symbols exactly if it is known. -/
theorem symbolsIn_ne_nil_iff {ref : Reference} : ref.symbolsIn r ≠ [] ↔ ref.KnownIn r := by
  constructor
  · intro h
    obtain ⟨s, hs⟩ := List.exists_mem_of_ne_nil _ h
    obtain ⟨e, he, rfl⟩ := List.mem_map.mp (mem_symbols_of_mem_symbolsIn hs)
    exact ⟨e, he, (mem_symbolsIn_iff he).mp hs⟩
  · rintro ⟨e, he, hselects⟩
    exact List.ne_nil_of_mem ((mem_symbolsIn_iff he).mpr hselects)

/-! ## Several references -/

/-- The selection of a reference and of those behind it. -/
theorem selection_cons (ref : Reference) (rest : List Reference) :
    r.selection (ref :: rest) =
      if ref.symbolsIn r = [] then .error (.unknownOperator ref.name)
      else (r.selection rest).map (ref.symbolsIn r ++ ·) := by
  rw [selection]
  cases ref.symbolsIn r with
  | nil => rfl
  | cons s symbols => cases r.selection rest <;> rfl

/-- Symbols are selected if every reference is known. -/
theorem selection_of_known {references : List Reference}
    (h : ∀ ref ∈ references, ref.KnownIn r) :
    r.selection references = .ok (references.flatMap (·.symbolsIn r)) := by
  induction references with
  | nil => rfl
  | cons ref rest ih =>
      obtain ⟨href, hrest⟩ := List.forall_mem_cons.mp h
      rw [selection_cons, if_neg (symbolsIn_ne_nil_iff.mpr href), ih hrest]
      rfl

/-- The selection ends at the first reference that is unknown. -/
theorem selection_of_unknown {front back : List Reference} {ref : Reference}
    (hfront : ∀ known ∈ front, known.KnownIn r) (href : ¬ ref.KnownIn r) :
    r.selection (front ++ ref :: back) = .error (.unknownOperator ref.name) := by
  induction front with
  | nil =>
      rw [List.nil_append, selection_cons, if_pos]
      exact Decidable.not_not.mp (mt symbolsIn_ne_nil_iff.mp href)
  | cons known front ih =>
      obtain ⟨hknown, hrest⟩ := List.forall_mem_cons.mp hfront
      rw [List.cons_append, selection_cons, if_neg (symbolsIn_ne_nil_iff.mpr hknown), ih hrest]
      rfl

/-- Either every reference is known, or there is a first one that is not. -/
theorem known_or_unknown (r : Registry) (references : List Reference) :
    (∀ ref ∈ references, ref.KnownIn r) ∨
      ∃ front ref back, references = front ++ ref :: back ∧
        (∀ known ∈ front, known.KnownIn r) ∧ ¬ ref.KnownIn r := by
  induction references with
  | nil => exact .inl nofun
  | cons ref rest ih =>
      by_cases href : ref.KnownIn r
      · rcases ih with hrest | ⟨front, unknown, back, rfl, hfront, hunknown⟩
        · exact .inl (List.forall_mem_cons.mpr ⟨href, hrest⟩)
        · exact .inr ⟨ref :: front, unknown, back, rfl,
            List.forall_mem_cons.mpr ⟨href, hfront⟩, hunknown⟩
      · exact .inr ⟨[], ref, rest, rfl, nofun, href⟩

/-! ## Narrowing -/

/-- What references select, in the order of the registry. -/
def selected (r : Registry) (references : List Reference) : Registry :=
  r.restrict fun e => references.any (·.selects e)

theorem entries_selected (r : Registry) (references : List Reference) :
    (r.selected references).entries = r.entries.filter fun e => references.any (·.selects e) :=
  rfl

/-- Where every reference is known, what they select is kept. -/
theorem only_of_known {references : List Reference} (h : ∀ ref ∈ references, ref.KnownIn r) :
    r.only references = .ok (r.selected references) := by
  rw [only, selection_of_known h]
  refine congrArg Except.ok (eq_of_entries_eq (List.filter_congr fun e he => ?_))
  rw [Bool.eq_iff_iff, List.contains_iff_mem, List.mem_flatMap, List.any_eq_true]
  simp only [mem_symbolsIn_iff he]

/-- The first reference that is unknown is the fault. -/
theorem only_of_unknown {front back : List Reference} {ref : Reference}
    (hfront : ∀ known ∈ front, known.KnownIn r) (href : ¬ ref.KnownIn r) :
    r.only (front ++ ref :: back) = .error (.unknownOperator ref.name) := by
  rw [only, selection_of_unknown hfront href]
  rfl

/-- A registry is narrowed if every reference is known in it, and keeps the selected entries. -/
theorem only_eq_ok_iff {references : List Reference} :
    r.only references = .ok n ↔
      (∀ ref ∈ references, ref.KnownIn r) ∧ n = r.selected references := by
  constructor
  · intro h
    rcases known_or_unknown r references with hknown | ⟨front, ref, back, rfl, hfront, href⟩
    · rw [only_of_known hknown] at h
      exact ⟨hknown, (Except.ok.inj h).symm⟩
    · rw [only_of_unknown hfront href] at h
      cases h
  · rintro ⟨hknown, rfl⟩
    exact only_of_known hknown

/-- It is not narrowed exactly for the first reference that is unknown. -/
theorem only_eq_error_iff {references : List Reference} {fault : Fault} :
    r.only references = .error fault ↔
      ∃ front ref back, references = front ++ ref :: back ∧
        (∀ known ∈ front, known.KnownIn r) ∧ ¬ ref.KnownIn r ∧
        fault = .unknownOperator ref.name := by
  constructor
  · intro h
    rcases known_or_unknown r references with hknown | ⟨front, ref, back, rfl, hfront, href⟩
    · rw [only_of_known hknown] at h
      cases h
    · rw [only_of_unknown hfront href] at h
      exact ⟨front, ref, back, rfl, hfront, href, (Except.error.inj h).symm⟩
  · rintro ⟨front, ref, back, rfl, hfront, href, rfl⟩
    exact only_of_unknown hfront href

/-- Narrowing depends on which references there are only, not on their order or number. -/
theorem only_congr {references others : List Reference}
    (h : ∀ ref, ref ∈ references ↔ ref ∈ others) :
    r.only references = .ok n ↔ r.only others = .ok n := by
  have hselected : r.selected references = r.selected others := by
    refine eq_of_entries_eq (List.filter_congr fun e _ => ?_)
    rw [Bool.eq_iff_iff, List.any_eq_true, List.any_eq_true]
    simp only [h]
  rw [only_eq_ok_iff, only_eq_ok_iff, hselected]
  simp only [h]

/-- Narrowing again to the same references changes nothing. -/
theorem only_again {references : List Reference} (h : r.only references = .ok n) :
    n.only references = .ok n := by
  obtain ⟨hknown, rfl⟩ := only_eq_ok_iff.mp h
  refine only_eq_ok_iff.mpr ⟨fun ref href => ?_, ?_⟩
  · obtain ⟨e, he, hselects⟩ := hknown ref href
    exact ⟨e, List.mem_filter.mpr ⟨he, List.any_eq_true.mpr ⟨ref, href, hselects⟩⟩, hselects⟩
  · refine eq_of_entries_eq (List.filter_eq_self.mpr fun e he => ?_).symm
    exact (List.mem_filter.mp he).2

/-- Registered symbols are known. -/
theorem known_of_symbols {symbols : List String} (h : ∀ s ∈ symbols, s ∈ r.symbols) :
    ∀ ref ∈ symbols.map Reference.symbol, ref.KnownIn r := by
  intro ref href
  obtain ⟨s, hs, rfl⟩ := List.mem_map.mp href
  obtain ⟨e, he, rfl⟩ := List.mem_map.mp (h s hs)
  exact ⟨e, he, decide_eq_true rfl⟩

/-- Symbols of a narrowed registry select from it what they select from the whole. -/
theorem symbols_only {references : List Reference} (h : r.only references = .ok n)
    {symbols : List String} (hsymbols : ∀ s ∈ symbols, s ∈ n.symbols) :
    n.only (symbols.map .symbol) = r.only (symbols.map .symbol) := by
  obtain ⟨-, rfl⟩ := only_eq_ok_iff.mp h
  have hwhole : ∀ s ∈ symbols, s ∈ r.symbols := fun s hs =>
    (List.filter_sublist.map Prod.fst).subset (hsymbols s hs)
  rw [only_of_known (known_of_symbols hsymbols), only_of_known (known_of_symbols hwhole)]
  refine congrArg Except.ok (eq_of_entries_eq ?_)
  rw [entries_selected, entries_selected, entries_selected, List.filter_filter]
  refine List.filter_congr fun e he => Bool.and_eq_left_iff_imp.mpr fun hany => ?_
  -- An entry that a symbol of the narrowed registry selects is one that was kept.
  obtain ⟨ref, href, hselects⟩ := List.any_eq_true.mp hany
  obtain ⟨s, hs, rfl⟩ := List.mem_map.mp href
  obtain ⟨x, hx, hsymbol⟩ := List.mem_map.mp (hsymbols s hs)
  obtain ⟨hmem, hkept⟩ := List.mem_filter.mp hx
  have hsame : x = e := eq_of_key_eq he hmem (hsymbol.trans (of_decide_eq_true hselects).symm)
  exact hsame ▸ hkept

end Sift.Registry
