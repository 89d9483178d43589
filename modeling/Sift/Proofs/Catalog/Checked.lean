import Sift.Catalog
import Sift.Proofs.Keyed
import Sift.Proofs.Reported

/-!
# Sift.Proofs.Catalog.Checked

What is known of declarations that have been checked.

Main statements:

* `problems_eq_nil_iff` — when a declaration has no problem among others;
* `outcome_build_eq_ok_iff` — a catalog is built exactly where the names are distinct and no
  declaration has a problem, and holds all declarations then.
-/

namespace Sift

/-- A check succeeds exactly if it finds no problem. -/
theorem Problem.check_eq_ok_iff {problems : List Problem} :
    Problem.check problems = .ok () ↔ problems = [] := by
  match problems with
  | [] => simp [Problem.check, Problem.collect?]
  | [p] => simp [Problem.check, Problem.collect?]
  | p :: q :: ps => simp [Problem.check, Problem.collect?]

namespace Declaration

/-! ## Repeated names -/

/-- A list repeats nothing, and nothing of another list, if its head is new and its tail
repeats nothing once the head is known. -/
theorem fresh_cons_iff {x : String} {xs seen : List String} :
    (x :: xs).Nodup ∧ (∀ y ∈ x :: xs, y ∉ seen) ↔
      x ∉ seen ∧ xs.Nodup ∧ ∀ y ∈ xs, y ∉ seen ++ [x] := by
  simp only [List.nodup_cons, List.forall_mem_cons, List.mem_append, List.mem_singleton, not_or]
  constructor
  · rintro ⟨⟨hx, hxs⟩, hseen, hrest⟩
    exact ⟨hseen, hxs, fun y hy => ⟨hrest y hy, fun heq => hx (heq ▸ hy)⟩⟩
  · rintro ⟨hseen, hxs, hrest⟩
    exact ⟨⟨fun hx => (hrest x hx).2 rfl, hxs⟩, hseen, fun y hy => (hrest y hy).1⟩

/-- No name is declared again exactly if the names are distinct from each other, and from
those before. -/
theorem duplicates_eq_nil_iff {names : List String} {ds : List Declaration} :
    duplicates names ds = [] ↔
      (ds.map Declaration.name).Nodup ∧ ∀ name ∈ ds.map Declaration.name, name ∉ names := by
  induction ds generalizing names with
  | nil => simp [duplicates]
  | cons d ds ih =>
      rw [duplicates, List.map_cons, fresh_cons_iff]
      by_cases hd : d.name ∈ names
      · simp [hd]
      · simp only [List.contains_iff_mem, hd, if_false, ih, not_false_eq_true, true_and]

/-- No field is repeated exactly if the fields are distinct from each other, and from those
before. -/
theorem repeatedFields_eq_nil_iff {before fields : List String} :
    repeatedFields before fields = [] ↔ fields.Nodup ∧ ∀ field ∈ fields, field ∉ before := by
  induction fields generalizing before with
  | nil => simp [repeatedFields]
  | cons field fields ih =>
      rw [repeatedFields, List.append_eq_nil_iff, ih, fresh_cons_iff]
      simp

/-- Declarations of distinct names are all first of their name. -/
theorem firsts_of_nodup {kept ds : List Declaration} (h : (ds.map Declaration.name).Nodup)
    (hkept : ∀ name ∈ ds.map Declaration.name, name ∉ kept.map Declaration.name) :
    firsts kept ds = kept ++ ds := by
  induction ds generalizing kept with
  | nil => simp [firsts]
  | cons d ds ih =>
      obtain ⟨hd, hds, hrest⟩ := fresh_cons_iff.mp ⟨h, hkept⟩
      simp only [firsts, List.contains_iff_mem, hd, if_false]
      rw [ih hds (by simpa using hrest), List.append_assoc, List.singleton_append]

/-! ## Single declarations -/

/-- A declaration has no problem exactly if its fields are distinct, it restricts fields of
its own only, and its relations lead to declared models only. -/
theorem problems_eq_nil_iff {d : Declaration} {all : List Declaration} :
    d.problems all = [] ↔
      d.fields.Nodup ∧ (∀ field ∈ Keyed.keys d.operators, field ∈ d.fields) ∧
      ∀ e ∈ d.relations, e.2.model ∈ all.map Declaration.name := by
  simp only [problems, List.append_eq_nil_iff, List.map_eq_nil_iff, List.filter_eq_nil_iff,
    List.filterMap_eq_nil_iff, List.mem_mergeSort, and_assoc, repeatedFields_eq_nil_iff]
  simp [hasField]

end Declaration

/-! ## Catalogs -/

namespace Catalog

/-- A catalog is built exactly where the names are distinct and no declaration has a problem,
and holds all declarations then. -/
theorem outcome_build_eq_ok_iff {ds : List Declaration} {c : Catalog} :
    (build ds).outcome = .ok c ↔
      (ds.map Declaration.name).Nodup ∧ (∀ d ∈ ds, d.problems ds = []) ∧ c = ofChecked ds := by
  have hfirsts (h : (ds.map Declaration.name).Nodup) : Declaration.firsts [] ds = ds :=
    Declaration.firsts_of_nodup h (by simp)
  simp only [build, Reported.outcome_bind_eq_ok_iff, Reported.outcome_ofExcept,
    Reported.outcome_report, Reported.outcome_pure]
  constructor
  · rintro ⟨_, hcheck, _, -, hc⟩
    rw [Problem.check_eq_ok_iff, List.append_eq_nil_iff, List.flatMap_eq_nil_iff,
      Declaration.duplicates_eq_nil_iff] at hcheck
    obtain ⟨⟨hnames, -⟩, hproblems⟩ := hcheck
    rw [hfirsts hnames] at hproblems hc
    exact ⟨hnames, hproblems, (Except.ok.inj hc).symm⟩
  · rintro ⟨hnames, hproblems, rfl⟩
    have hduplicates : Declaration.duplicates [] ds = [] :=
      Declaration.duplicates_eq_nil_iff.mpr ⟨hnames, by simp⟩
    rw [hfirsts hnames, hduplicates, List.nil_append]
    exact ⟨(), Problem.check_eq_ok_iff.mpr (List.flatMap_eq_nil_iff.mpr hproblems), (), trivial,
      rfl⟩

/-- A catalog that fits a registry restricts fields to registered operators only. -/
theorem mem_symbols_of_checkOperators {c : Catalog} {r : Registry}
    (h : c.checkOperators r = .ok ()) {m : c.Model} {field symbol : String}
    {allowed : List String} (hallowed : Keyed.get? (c.declaration m).operators field = some allowed)
    (hsymbol : symbol ∈ allowed) : symbol ∈ r.symbols := by
  have hnone := Problem.check_eq_ok_iff.mp h
  rw [unknownOperators, List.flatMap_eq_nil_iff] at hnone
  have hfields := hnone (c.declaration m) (List.getElem_mem m.isLt)
  rw [List.flatMap_eq_nil_iff] at hfields
  have hrest := hfields (field, allowed) (Keyed.mem_of_get? hallowed)
  rw [List.map_eq_nil_iff, List.filter_eq_nil_iff] at hrest
  rw [← Registry.contains_iff]
  simpa using hrest symbol hsymbol

end Catalog

end Sift
