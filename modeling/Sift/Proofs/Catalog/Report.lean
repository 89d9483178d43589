import Sift.Proofs.Catalog.Checked

/-!
# Sift.Proofs.Catalog.Report

Everything that is wrong with declarations, and nothing else.  What is reported is said on
the declarations by themselves: a name or a field is reported at each place behind its first
one, a restriction if its field is not declared, and a relation if no declaration has the
name it leads to.

Main statements:

* `count_repeats` — of `k` occurrences `k - 1` are reported;
* `findings_ne_nil_iff` — when there is something to report;
* `outcome_build_eq` — a catalog fails with exactly what is found, in order;
* `Reshuffled.findings_eq` — the order in which restrictions are kept plays no part;
* `reports_build` — so a catalog that cannot be built reports exactly the problems there are.
-/

namespace Sift

/-! ## First and further occurrences -/

namespace Declaration

variable {α : Type}

/-- The items at whose place their key has been seen, or those at whose place it has not: in
front of the list or at an earlier place of it. -/
def sighted (again : Bool) (key : α → String) (before : List String) (xs : List α) : List α :=
  (xs.zipIdx.filter fun p =>
    decide (key p.1 ∈ before ++ (xs.take p.2).map key) == again).map Prod.fst

/-- The items whose key stands at an earlier place already, in order. -/
def repeats (key : α → String) (xs : List α) : List α := sighted true key [] xs

/-- The items whose key stands at no earlier place, in order. -/
def firstOnes (key : α → String) (xs : List α) : List α := sighted false key [] xs

@[simp] theorem sighted_nil (again : Bool) (key : α → String) (before : List String) :
    sighted again key before [] = [] := rfl

/-- Once it has been looked at, an item is in front of the others. -/
theorem sighted_cons (again : Bool) (key : α → String) (before : List String) (x : α)
    (xs : List α) :
    sighted again key before (x :: xs) =
      (if decide (key x ∈ before) == again then [x] else []) ++
        sighted again key (before ++ [key x]) xs := by
  have hrest : ((x :: xs).zipIdx.filter fun p =>
      decide (key p.1 ∈ before ++ ((x :: xs).take p.2).map key) == again).map Prod.fst =
      (if decide (key x ∈ before) == again then [x] else []) ++
        (xs.zipIdx.filter fun p =>
          decide (key p.1 ∈ before ++ [key x] ++ (xs.take p.2).map key) == again).map Prod.fst := by
    rw [List.zipIdx_cons, List.zipIdx_succ, List.filter_cons, List.filter_map]
    simp only [List.take_zero, List.map_nil, List.append_nil]
    split <;> simp [Function.comp_def]
  exact hrest

/-- Putting a key in front that is there already changes nothing. -/
theorem sighted_of_mem (again : Bool) (key : α → String) {before : List String} {k : String}
    (h : k ∈ before) (xs : List α) :
    sighted again key (before ++ [k]) xs = sighted again key before xs := by
  have hsame : ∀ j ys, j ∈ before ++ [k] ++ ys ↔ j ∈ before ++ ys := by grind
  simp only [sighted, hsame]

/-- Of the occurrences of a key that is not in front, all but one are repeats. -/
theorem count_sighted (key : α → String) (before : List String) (xs : List α) (k : String) :
    ((sighted true key before xs).map key).count k =
      (xs.map key).count k - if k ∈ before then 0 else 1 := by
  induction xs generalizing before with
  | nil => simp
  | cons x xs ih =>
      rw [sighted_cons, List.map_append, List.count_append, ih, List.map_cons, List.count_cons]
      by_cases hx : key x = k
      · subst hx
        by_cases hmem : key x ∈ before
        · simp [hmem, Nat.add_comm]
        · simp [hmem]
      · have hne : k ≠ key x := Ne.symm hx
        by_cases hmem : key x ∈ before <;> simp [hmem, hx, hne]

/-- Of `k` occurrences of a key, `k - 1` are repeats. -/
theorem count_repeats (key : α → String) (xs : List α) (k : String) :
    ((repeats key xs).map key).count k = (xs.map key).count k - 1 := by
  simpa [repeats] using count_sighted key [] xs k

example : repeats id ["name", "born", "name", "name"] = ["name", "name"] := by decide

/-- Every key has a first occurrence. -/
theorem mem_sighted_keys_iff (key : α → String) (before : List String) (xs : List α)
    (k : String) :
    k ∈ before ∨ k ∈ (sighted false key before xs).map key ↔ k ∈ before ∨ k ∈ xs.map key := by
  induction xs generalizing before with
  | nil => simp
  | cons x xs ih =>
      have hrest := ih (before ++ [key x])
      simp only [List.mem_append, List.mem_singleton, or_assoc] at hrest
      rw [sighted_cons, List.map_append, List.mem_append, List.map_cons, List.mem_cons, ← hrest]
      by_cases hmem : key x ∈ before
      · have hx : k = key x → k ∈ before := fun h => h ▸ hmem
        rw [decide_eq_true hmem, if_neg (by decide), List.map_nil]
        grind
      · simp [hmem]

/-- Every key has a first occurrence. -/
theorem mem_firstOnes_keys_iff (key : α → String) (xs : List α) (k : String) :
    k ∈ (firstOnes key xs).map key ↔ k ∈ xs.map key := by
  simpa [firstOnes] using mem_sighted_keys_iff key [] xs k

/-- A first occurrence has no item of its key in front of it. -/
theorem mem_sighted_false_iff (key : α → String) (before : List String) (xs : List α) (x : α) :
    x ∈ sighted false key before xs ↔
      ∃ front back, xs = front ++ x :: back ∧ key x ∉ before ++ front.map key := by
  induction xs generalizing before with
  | nil => simp
  | cons y ys ih =>
      rw [sighted_cons, List.mem_append, ih]
      constructor
      · rintro (hx | ⟨front, back, rfl, hfront⟩)
        · split at hx
          · next hy =>
              cases List.mem_singleton.mp hx
              exact ⟨[], ys, rfl, by simpa using hy⟩
          · simp at hx
        · exact ⟨y :: front, back, rfl, by simpa using hfront⟩
      · rintro ⟨_ | ⟨z, front⟩, back, hxs, hfront⟩
        · obtain ⟨rfl, rfl⟩ := List.cons.inj hxs
          exact .inl (by simpa using hfront)
        · obtain ⟨rfl, rfl⟩ := List.cons.inj hxs
          exact .inr ⟨front, back, rfl, by simpa using hfront⟩

/-- Nothing is a repeat exactly if the keys are distinct. -/
theorem repeats_eq_nil_iff (key : α → String) (xs : List α) :
    repeats key xs = [] ↔ (xs.map key).Nodup := by
  have hcount : repeats key xs = [] ↔ ∀ k, ((repeats key xs).map key).count k = 0 := by
    rw [← List.map_eq_nil_iff (f := key), List.eq_nil_iff_forall_not_mem]
    simp only [List.count_eq_zero]
  rw [hcount, List.nodup_iff_count]
  simp only [count_repeats, Nat.sub_eq_zero_iff_le]

/-! ## What is found -/

/-- What is wrong with a declaration among those of some names: its repeated fields, the
fields it restricts without declaring them, and its relations that lead nowhere. -/
def found (undeclared : Declaration → List String) (names : List String) (d : Declaration) :
    List Problem :=
  (repeats id d.fields).map (fun field => .invalidField d.name field .repeated) ++
  (undeclared d).map (fun field => .invalidField d.name field .restrictedOnly) ++
  (d.relations.filter fun e => decide (e.2.model ∉ names)).map fun e =>
    .invalidRelation d.name e.1 (.unknownModel e.2.model)

/-- Everything that is wrong with declarations: the names that are declared again, and what
is wrong with the first declaration of each name. -/
def findings (undeclared : Declaration → List String) (ds : List Declaration) : List Problem :=
  (repeats name ds).map (fun d => .duplicate "model" d.name) ++
  (firstOnes name ds).flatMap (·.found undeclared (ds.map name))

/-- The fields that each declaration restricts without declaring them, each once and sorted
by name. -/
def ListsUndeclared (undeclared : Declaration → List String) : Prop :=
  ∀ d, (undeclared d).Pairwise (· ≤ ·) ∧
    (undeclared d).Perm ((Keyed.keys d.operators).filter fun field => decide (field ∉ d.fields))

/-- The restricted fields that are not declared, as they are looked for. -/
def undeclaredFields (d : Declaration) : List String :=
  ((Keyed.keys d.operators).mergeSort fun a b => decide (a ≤ b)).filter (!d.hasField ·)

/-- The restricted fields that a catalog looks for are such a list. -/
theorem listsUndeclared_undeclaredFields : ListsUndeclared undeclaredFields := by
  intro d
  have hsorted : ((Keyed.keys d.operators).mergeSort fun a b => decide (a ≤ b)).Pairwise
      (· ≤ ·) := by
    refine (List.pairwise_mergeSort ?_ ?_ _).imp of_decide_eq_true
    · intro a b c hab hbc
      exact decide_eq_true (String.le_trans (of_decide_eq_true hab) (of_decide_eq_true hbc))
    · intro a b
      simpa using String.le_total a b
  have hperm := (List.mergeSort_perm (Keyed.keys d.operators) fun a b => decide (a ≤ b)).filter
    (!d.hasField ·)
  refine ⟨hsorted.filter _, ?_⟩
  simpa [undeclaredFields, hasField] using hperm

/-- There is only one way to list them. -/
theorem ListsUndeclared.eq_undeclaredFields {undeclared : Declaration → List String}
    (h : ListsUndeclared undeclared) : undeclared = undeclaredFields := by
  funext d
  obtain ⟨hsorted, hperm⟩ := h d
  obtain ⟨hsorted', hperm'⟩ := listsUndeclared_undeclaredFields d
  exact (hperm.trans hperm'.symm).eq_of_pairwise (fun _ _ _ _ => String.le_antisymm) hsorted
    hsorted'

/-- Something is wrong with a declaration among others: it repeats a field, restricts a field
that it does not declare, or has a relation to a model that no declaration has the name of. -/
def Flawed (ds : List Declaration) (d : Declaration) : Prop :=
  ¬ d.fields.Nodup ∨ (∃ field ∈ Keyed.keys d.operators, field ∉ d.fields) ∨
    ∃ e ∈ d.relations, e.2.model ∉ ds.map name

/-- Nothing is found in a declaration exactly if nothing is wrong with it. -/
theorem found_eq_nil_iff {undeclared : Declaration → List String}
    (h : ListsUndeclared undeclared) (ds : List Declaration) (d : Declaration) :
    d.found undeclared (ds.map name) = [] ↔ ¬ d.Flawed ds := by
  have hundeclared : undeclared d = [] ↔ ∀ field ∈ Keyed.keys d.operators, field ∈ d.fields := by
    rw [← List.length_eq_zero_iff, (h d).2.length_eq, List.length_eq_zero_iff]
    simp
  rw [found, List.append_eq_nil_iff, List.append_eq_nil_iff, List.map_eq_nil_iff,
    List.map_eq_nil_iff, List.map_eq_nil_iff, repeats_eq_nil_iff, hundeclared]
  simp [Flawed, and_assoc]

/-- Something is found exactly if a name is declared again, or something is wrong with the
first declaration of a name. -/
theorem findings_ne_nil_iff {undeclared : Declaration → List String}
    (h : ListsUndeclared undeclared) (ds : List Declaration) :
    findings undeclared ds ≠ [] ↔ ¬ (ds.map name).Nodup ∨
      ∃ front d back, ds = front ++ d :: back ∧ d.name ∉ front.map name ∧ d.Flawed ds := by
  rw [Ne, findings, List.append_eq_nil_iff, List.map_eq_nil_iff, repeats_eq_nil_iff,
    List.flatMap_eq_nil_iff, Classical.not_and_iff_not_or_not]
  simp only [found_eq_nil_iff h, firstOnes, mem_sighted_false_iff, List.nil_append]
  grind

/-! ## What is looked for -/

/-- The fields that are reported are those seen before. -/
theorem repeatedFields_eq (before fields : List String) :
    repeatedFields before fields = sighted true id before fields := by
  induction fields generalizing before with
  | nil => rfl
  | cons field fields ih => simp [repeatedFields, sighted_cons, ih]

/-- The declarations that are reported are those of a name seen before. -/
theorem duplicates_eq (names : List String) (ds : List Declaration) :
    duplicates names ds =
      (sighted true name names ds).map fun d => .duplicate "model" d.name := by
  induction ds generalizing names with
  | nil => rfl
  | cons d ds ih =>
      rw [duplicates, sighted_cons]
      by_cases hd : d.name ∈ names
      · -- A name that is known is not entered again.
        simp [hd, ih, sighted_of_mem true name hd]
      · simp [hd, ih]

/-- The declarations that are kept are those of a name not seen before. -/
theorem firsts_eq (kept ds : List Declaration) :
    firsts kept ds = kept ++ sighted false name (kept.map name) ds := by
  induction ds generalizing kept with
  | nil => simp [firsts]
  | cons d ds ih =>
      rw [firsts, sighted_cons]
      by_cases hd : d.name ∈ kept.map name
      · rw [if_pos (List.contains_iff_mem.mpr hd), ih, sighted_of_mem false name hd]
        simp [hd]
      · rw [if_neg (mt List.contains_iff_mem.mp hd), ih]
        simp [hd]

/-- A relation is reported if its model is not among those that are there. -/
theorem unknownModels_eq {names names' : List String} (h : ∀ k, k ∈ names ↔ k ∈ names')
    (owner : String) (relations : Keyed RelationDeclaration) :
    (relations.filterMap fun e =>
        if names.contains e.2.model then none
        else some (Problem.invalidRelation owner e.1 (.unknownModel e.2.model))) =
      (relations.filter fun e => decide (e.2.model ∉ names')).map fun e =>
        .invalidRelation owner e.1 (.unknownModel e.2.model) := by
  induction relations with
  | nil => rfl
  | cons e es ih => by_cases hmem : e.2.model ∈ names' <;> simp_all

/-- The problems of a declaration depend on the names of all declarations only. -/
theorem problems_eq {d : Declaration} {all ds : List Declaration}
    (h : ∀ k, k ∈ all.map name ↔ k ∈ ds.map name) :
    d.problems all = d.found undeclaredFields (ds.map name) := by
  rw [problems, repeatedFields_eq, unknownModels_eq h]
  rfl

/-- What is looked for is what there is. -/
theorem problems_firsts_eq (ds : List Declaration) :
    duplicates [] ds ++ (firsts [] ds).flatMap (·.problems (firsts [] ds)) =
      findings undeclaredFields ds := by
  have hfirsts : firsts [] ds = firstOnes name ds := firsts_eq [] ds
  rw [duplicates_eq, hfirsts, findings]
  simp only [problems_eq (mem_firstOnes_keys_iff name ds), repeats]

/-! ## The order of restrictions -/

/-- The same declarations, each with its restrictions kept in another order. -/
inductive Reshuffled : List Declaration → List Declaration → Prop
  | nil : Reshuffled [] []
  | cons {d : Declaration} {operators : Keyed (List String)} {ds ds' : List Declaration}
      (order : operators.Perm d.operators) (rest : Reshuffled ds ds') :
      Reshuffled (d :: ds) ({ d with operators } :: ds')

namespace Reshuffled

variable {ds ds' : List Declaration}

theorem map_name (h : Reshuffled ds ds') : ds'.map name = ds.map name := by
  induction h with
  | nil => rfl
  | cons order rest ih => rw [List.map_cons, List.map_cons, ih]

/-- The first declarations of their names are the same, too. -/
theorem sighted (again : Bool) (before : List String) (h : Reshuffled ds ds') :
    Reshuffled (Declaration.sighted again name before ds)
      (Declaration.sighted again name before ds') := by
  induction h generalizing before with
  | nil => exact .nil
  | cons order rest ih =>
      rw [sighted_cons, sighted_cons]
      split
      · exact .cons order (ih _)
      · exact ih _

/-- Sorting forgets the order in which restrictions are kept. -/
theorem undeclaredFields_eq {d : Declaration} {operators : Keyed (List String)}
    (h : operators.Perm d.operators) :
    undeclaredFields { d with operators } = undeclaredFields d := by
  obtain ⟨hsorted, hperm⟩ := listsUndeclared_undeclaredFields { d with operators }
  obtain ⟨hsorted', hperm'⟩ := listsUndeclared_undeclaredFields d
  have hkeys := (h.map Prod.fst).filter fun field => decide (field ∉ d.fields)
  exact ((hperm.trans hkeys).trans hperm'.symm).eq_of_pairwise
    (fun _ _ _ _ => String.le_antisymm) hsorted hsorted'

/-- What is found does not depend on the order in which restrictions are kept. -/
theorem findings_eq (h : Reshuffled ds ds') :
    findings undeclaredFields ds' = findings undeclaredFields ds := by
  have hduplicates : ∀ {es es' : List Declaration}, Reshuffled es es' →
      es'.map (fun d => Problem.duplicate "model" d.name) =
        es.map fun d => .duplicate "model" d.name := by
    intro es es' hes
    induction hes with
    | nil => rfl
    | cons order rest ih => rw [List.map_cons, List.map_cons, ih]
  have hfirsts : ∀ {es es' : List Declaration}, Reshuffled es es' →
      es'.flatMap (·.found undeclaredFields (ds.map name)) =
        es.flatMap (·.found undeclaredFields (ds.map name)) := by
    intro es es' hes
    induction hes with
    | nil => rfl
    | cons order rest ih =>
        rw [List.flatMap_cons, List.flatMap_cons, ih, found, undeclaredFields_eq order]
        rfl
  rw [findings, findings, h.map_name, repeats, repeats, firstOnes, firstOnes,
    hduplicates (h.sighted true []), hfirsts (h.sighted false [])]

end Reshuffled

end Declaration

/-! ## Building -/

/-- Nothing, one problem as it is, or several in one. -/
theorem Problem.check_eq (problems : List Problem) :
    check problems =
      match problems with
      | [] => .ok ()
      | [p] => .error p
      | ps => .error (.several ps.length ps) := by
  rcases problems with _ | ⟨p, _ | ⟨q, ps⟩⟩ <;> rfl

namespace Catalog

open Declaration

/-- A catalog is built if nothing is found, and fails with what is found otherwise. -/
theorem outcome_build_eq (ds : List Declaration) :
    (build ds).outcome =
      match findings undeclaredFields ds with
      | [] => .ok (ofChecked ds)
      | [p] => .error p
      | ps => .error (.several ps.length ps) := by
  have hbuild : (build ds).outcome =
      (Problem.check (findings undeclaredFields ds)).map fun _ => ofChecked (firsts [] ds) := by
    rw [← problems_firsts_eq, build]
    cases Problem.check (duplicates [] ds ++
        (firsts [] ds).flatMap (·.problems (firsts [] ds))) with
    | error p => rfl
    | ok u => rfl
  rw [Problem.check_eq] at hbuild
  rcases hfindings : findings undeclaredFields ds with _ | ⟨p, _ | ⟨q, ps⟩⟩
  · rw [hfindings] at hbuild
    -- Where nothing is found, every declaration is the first of its name.
    exact hbuild.trans (congrArg _ (outcome_build_eq_ok_iff.mp hbuild).2.2)
  · rw [hbuild, hfindings]
    rfl
  · rw [hbuild, hfindings]
    rfl

/-- A catalog cannot be built exactly if something is found. -/
theorem outcome_build_eq_error_iff (ds : List Declaration) :
    (∃ p, (build ds).outcome = .error p) ↔ findings undeclaredFields ds ≠ [] := by
  rw [outcome_build_eq]
  rcases findings undeclaredFields ds with _ | ⟨p, _ | ⟨q, ps⟩⟩ <;> simp

/-- What building a catalog says about its declarations. -/
structure Reports (ds : List Declaration) : Prop where
  /-- It fails exactly if a name is declared twice, or something is wrong with the first
  declaration of a name. -/
  fails_iff : (∃ p, (build ds).outcome = .error p) ↔ ¬ (ds.map name).Nodup ∨
    ∃ front d back, ds = front ++ d :: back ∧ d.name ∉ front.map name ∧ d.Flawed ds
  /-- Restricted fields that are not declared can be listed in just one way. -/
  listed : ∃ undeclared, ListsUndeclared undeclared ∧
    ∀ other, ListsUndeclared other → other = undeclared
  /-- With that list what is found is reported, in order and nothing else: a single problem
  as itself, and several with their number. -/
  report : ∀ undeclared, ListsUndeclared undeclared →
    match findings undeclared ds with
    | [] => (build ds).outcome = .ok (ofChecked ds)
    | [p] => (build ds).outcome = .error p
    | ps => (build ds).outcome = .error (.several ps.length ps) ∧
        (Problem.several ps.length ps).message =
          "schema validation failed with " ++ toString ps.length ++ " error(s)"
  /-- Of the declarations of a name all but one are reported. -/
  names : ∀ model, ((repeats name ds).map name).count model = (ds.map name).count model - 1
  /-- Of the occurrences of a field all but one are reported. -/
  fields : ∀ d ∈ ds, ∀ field, (repeats id d.fields).count field = d.fields.count field - 1
  /-- The order in which restrictions are kept plays no part. -/
  reshuffled : ∀ ds', Reshuffled ds ds' →
    (∀ p, (build ds').outcome = .error p ↔ (build ds).outcome = .error p) ∧
    ((build ds').outcome = .ok (ofChecked ds') ↔ (build ds).outcome = .ok (ofChecked ds))

/-- A catalog that cannot be built reports exactly the problems there are. -/
theorem reports_build (ds : List Declaration) : Reports ds where
  fails_iff := by
    rw [outcome_build_eq_error_iff, findings_ne_nil_iff listsUndeclared_undeclaredFields]
  listed := ⟨undeclaredFields, listsUndeclared_undeclaredFields, fun _ h => h.eq_undeclaredFields⟩
  report undeclared h := by
    cases h.eq_undeclaredFields
    rw [outcome_build_eq]
    rcases findings undeclaredFields ds with _ | ⟨p, _ | ⟨q, ps⟩⟩
    · rfl
    · rfl
    · exact ⟨rfl, rfl⟩
  names model := count_repeats name ds model
  fields d _ field := by simpa using count_repeats id d.fields field
  reshuffled ds' h := by
    rw [outcome_build_eq, outcome_build_eq, h.findings_eq]
    rcases findings undeclaredFields ds with _ | ⟨p, _ | ⟨q, ps⟩⟩ <;> simp

end Catalog

end Sift
