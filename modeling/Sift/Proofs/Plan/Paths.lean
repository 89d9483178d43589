import Sift.Proofs.Plan.Occupied

/-!
# Sift.Proofs.Plan.Paths

Plans as tries.  A path of relations leads from scope to scope; a condition that is put
under a path ends up behind the conditions that are there already, and nothing beside the
path is touched.

Main statements:

* `at?_insert` — the scope at any path after one insertion;
* `conditionsAt_insert`, `owner?_insert`, `depths_insertInto` — what can be seen of it there;
* `trieOf_ofInsertions` — what a plan is made of after any insertions in turn.
-/

namespace Sift

namespace Plan

variable {M : Type}

/-! ## Following a path -/

/-- The scope that a path of relations leads to, if every relation on it has one. -/
def at? (p : Plan M) : List String → Option (Plan M)
  | [] => some p
  | name :: path => (p.relation? name).bind fun q => q.at? path

/-- The conditions in the scope that a path leads to; none without the scope. -/
def conditionsAt (p : Plan M) (path : List String) : List Condition :=
  ((p.at? path).getD empty).conditions

/-- The relation of an entry and the model that it belongs to. -/
def Entry.owned? : Entry M → Option (String × M)
  | .condition _ => none
  | .related name owner _ => some (name, owner)

/-- The model that the relation of a scope belongs to; the scope is named by the path to
the level that it stands on, and by its relation. -/
def owner? (p : Plan M) (path : List String) (name : String) : Option M :=
  Keyed.get? (((p.at? path).getD empty).entries.filterMap Entry.owned?) name

/-- Wherever one looks in an empty plan, there is nothing. -/
theorem getD_at?_empty (path : List String) : ((empty : Plan M).at? path).getD empty = empty := by
  cases path <;> rfl

@[simp] theorem conditionsAt_empty (path : List String) :
    (empty : Plan M).conditionsAt path = [] := by
  rw [conditionsAt, getD_at?_empty]
  rfl

@[simp] theorem owner?_empty (path : List String) (name : String) :
    (empty : Plan M).owner? path name = none := by
  rw [owner?, getD_at?_empty]
  rfl

/-! ## One insertion, level by level -/

/-- What a change of the scope of a relation makes of the entries around it: nothing else
changes, and a scope that was not there is opened at the end. -/
inductive Touched (name : String) (owner : M) : List (Entry M) → List (Entry M) → Prop
  | inside {before after inner inner' : List (Entry M)} {o : M}
      (hfirst : name ∉ scopeNames before) :
      Touched name owner (before ++ .related name o inner :: after)
        (before ++ .related name o inner' :: after)
  | opened {es inner : List (Entry M)} (hnew : name ∉ scopeNames es) :
      Touched name owner es (es ++ [.related name owner inner])

/-- A relation with a scope has a first one. -/
theorem exists_first_scope {name : String} {es : List (Entry M)} (h : name ∈ scopeNames es) :
    ∃ before o inner after, es = before ++ .related name o inner :: after ∧
      name ∉ scopeNames before := by
  induction es with
  | nil => simp at h
  | cons e es ih =>
      cases e with
      | condition c =>
          obtain ⟨before, o, inner, after, rfl, hfirst⟩ := ih h
          exact ⟨.condition c :: before, o, inner, after, rfl, hfirst⟩
      | related n p more =>
          by_cases hn : n = name
          · exact ⟨[], p, more, es, by rw [hn]; rfl, by simp⟩
          · have hrest : name ∈ scopeNames es := by
              simpa [Ne.symm hn] using h
            obtain ⟨before, o, inner, after, rfl, hfirst⟩ := ih hrest
            exact ⟨.related n p more :: before, o, inner, after, rfl, by simp [Ne.symm hn, hfirst]⟩

/-- Changing the first scope of a name touches nothing but that scope. -/
theorem touched_updateFirst (name : String) (owner : M)
    (change : List (Entry M) → List (Entry M)) (es : List (Entry M)) :
    Touched name owner es (updateFirst name owner change es) := by
  by_cases h : name ∈ scopeNames es
  · obtain ⟨before, o, inner, after, rfl, hfirst⟩ := exists_first_scope h
    rw [updateFirst_append hfirst]
    exact .inside hfirst
  · rw [updateFirst_of_not_mem h]
    exact .opened h

section Touched

variable {name : String} {owner : M} {es fs : List (Entry M)}

/-- The conditions beside the scope stay. -/
theorem Touched.conditions_eq (h : Touched name owner es fs) :
    fs.filterMap Entry.condition? = es.filterMap Entry.condition? := by
  cases h with
  | inside hfirst => simp [List.filterMap_cons, Entry.condition?]
  | opened hnew => simp [List.filterMap_cons, Entry.condition?]

/-- The names of the scopes stay, and the name is among them afterwards. -/
theorem Touched.scopeNames_eq (h : Touched name owner es fs) :
    scopeNames fs = if name ∈ scopeNames es then scopeNames es else scopeNames es ++ [name] := by
  cases h with
  | inside hfirst => simp
  | opened hnew => simp [hnew]

/-- Distinct names stay distinct. -/
theorem Touched.nodup (h : Touched name owner es fs) (hes : (scopeNames es).Nodup) :
    (scopeNames fs).Nodup := by
  rw [h.scopeNames_eq]
  by_cases hname : name ∈ scopeNames es
  · simpa [hname] using hes
  · have hdisjoint : ∀ a ∈ scopeNames es, ¬ a = name := fun a ha heq => hname (heq ▸ ha)
    simpa [hname, List.nodup_append, hes] using hdisjoint

end Touched

/-- A look-up goes through the first entries before the others. -/
theorem get?_append (xs ys : Keyed M) (key : String) :
    Keyed.get? (xs ++ ys) key = (Keyed.get? xs key).or (Keyed.get? ys key) := by
  induction xs with
  | nil => rfl
  | cons e es ih => by_cases h : e.1 = key <;> simp [Keyed.get?, h, ih]

/-- The model that a scope was opened with stays with it. -/
theorem Touched.get?_owned? {name : String} {owner : M} {es fs : List (Entry M)}
    (h : Touched name owner es fs) (other : String) :
    Keyed.get? (fs.filterMap Entry.owned?) other =
      (Keyed.get? (es.filterMap Entry.owned?) other).or
        (if name = other then some owner else none) := by
  cases h with
  | inside hfirst =>
      by_cases hname : name = other
      · simp [get?_append, Entry.owned?, Keyed.get?, hname]
      · simp [get?_append, Entry.owned?, Keyed.get?, hname]
  | opened hnew => simp [get?_append, Entry.owned?, Keyed.get?]

/-! ## One insertion, at any path -/

/-- An insertion goes on with the rest of its path in every scope on the path, and leaves
all other scopes as they are. -/
theorem at?_insert (c : Condition) : (path relations : List String) → (owners : List M) →
    owners.length = relations.length → (p : Plan M) →
    (p.insert relations owners c).at? path =
      if path <+: relations then
        some (((p.at? path).getD empty).insert (relations.drop path.length)
          (owners.drop path.length) c)
      else p.at? path
  | [], relations, owners, _, p => by simp [at?]
  | name :: path, [], owners, _, p => by
      have hsame : (p.insert [] owners c).relation? name = p.relation? name := by
        simp [relation?, Plan.relations, entries_insert_nil, List.filterMap_cons, Entry.related?]
      simp [at?, hsame]
  | name :: path, n :: names, o :: owners, h, p => by
      by_cases hname : name = n
      · subst hname
        have ih := at?_insert c path names owners (by simpa using h)
          ((p.relation? name).getD empty)
        rw [at?, relation?_insert_same, Option.bind_some, ih]
        cases hrel : p.relation? name with
        | none =>
            have hempty : path ≠ [] → (empty : Plan M).at? path = none := by
              intro hne
              cases path with
              | nil => exact absurd rfl hne
              | cons _ _ => rfl
            by_cases hpath : path <+: names
            · simp [at?, hrel, hpath, getD_at?_empty]
            · have hne : path ≠ [] := fun hnil => hpath (hnil ▸ List.nil_prefix)
              simp [at?, hrel, hpath, hempty hne]
        | some q => simp [at?, hrel]
      · rw [at?, relation?_insert_other p names o owners c hname]
        simp [at?, hname]

section Insert

variable {relations : List String} {owners : List M} (p : Plan M) (c : Condition)

/-- Off its path an insertion changes nothing, however deep. -/
theorem at?_insert_off (h : owners.length = relations.length) {path : List String}
    (hpath : ¬ path <+: relations) : (p.insert relations owners c).at? path = p.at? path := by
  rw [at?_insert c path relations owners h, if_neg hpath]

/-- At the end of its path an insertion adds its condition as the last entry. -/
theorem at?_insert_self (h : owners.length = relations.length) :
    (p.insert relations owners c).at? relations =
      some ⟨((p.at? relations).getD empty).entries ++ [.condition c]⟩ := by
  rw [at?_insert c relations relations owners h, if_pos List.prefix_rfl, List.drop_length]
  rfl

/-- On its path an insertion changes the scope of the next relation only. -/
theorem at?_insert_of_next (h : owners.length = relations.length) {path : List String}
    {name : String} (hpath : path ++ [name] <+: relations) :
    ∃ owner es, owners[path.length]? = some owner ∧
      (p.insert relations owners c).at? path = some ⟨es⟩ ∧
      Touched name owner ((p.at? path).getD empty).entries es := by
  obtain ⟨names, rfl⟩ := hpath
  have hlt : path.length < owners.length := by simp [h]
  have howners : owners.drop path.length = owners[path.length] :: owners.drop (path.length + 1) :=
    List.drop_eq_getElem_cons hlt
  have hnames : (path ++ [name] ++ names).drop path.length = name :: names := by simp
  have hat := at?_insert c path _ owners h p
  rw [if_pos (by simp), howners, hnames] at hat
  exact ⟨_, _, List.getElem?_eq_getElem hlt, hat, touched_updateFirst name _ _ _⟩

/-- A path either ends on the level of an insertion, or goes on by the next relation. -/
theorem eq_or_next {path relations : List String} (h : path <+: relations) :
    path = relations ∨ ∃ name, path ++ [name] <+: relations := by
  obtain ⟨rest, rfl⟩ := h
  cases rest with
  | nil => simp
  | cons name names => exact .inr ⟨name, names, by simp⟩

theorem not_longer_prefix_self (path : List String) (name : String) :
    ¬ path ++ [name] <+: path := by
  intro h
  have hlength := h.length_le
  rw [List.length_append, List.length_singleton] at hlength
  omega

/-- The conditions in a scope stay, and the new one is added where its path ends. -/
theorem conditionsAt_insert (h : owners.length = relations.length) (path : List String) :
    (p.insert relations owners c).conditionsAt path =
      p.conditionsAt path ++ if relations = path then [c] else [] := by
  by_cases hpath : path <+: relations
  · obtain rfl | ⟨name, hnext⟩ := eq_or_next hpath
    · simp [conditionsAt, at?_insert_self p c h, conditions, Entry.condition?]
    · obtain ⟨owner, es, -, hat, htouched⟩ := at?_insert_of_next p c h hnext
      have hne : relations ≠ path := fun heq => not_longer_prefix_self path name (heq ▸ hnext)
      simp [conditionsAt, hat, conditions, htouched.conditions_eq, hne]
  · have hne : relations ≠ path := fun heq => hpath (heq ▸ List.prefix_rfl)
    simp [conditionsAt, at?_insert_off p c h hpath, hne]

/-- The model of a scope stays; a scope that is opened has the model of its relation. -/
theorem owner?_insert (h : owners.length = relations.length) (path : List String)
    (name : String) :
    (p.insert relations owners c).owner? path name =
      (p.owner? path name).or
        (if path ++ [name] <+: relations then owners[path.length]? else none) := by
  by_cases hpath : path <+: relations
  · obtain rfl | ⟨n, hnext⟩ := eq_or_next hpath
    · have hlong := not_longer_prefix_self path name
      simp [owner?, at?_insert_self p c h, List.filterMap_cons, Entry.owned?, hlong]
    · obtain ⟨owner, es, howner, hat, htouched⟩ := at?_insert_of_next p c h hnext
      have hiff : path ++ [name] <+: relations ↔ n = name := by
        obtain ⟨names, rfl⟩ := hnext
        simp [List.prefix_append_right_inj, eq_comm]
      simp [owner?, hat, htouched.get?_owned?, hiff, howner]
  · have hlong : ¬ path ++ [name] <+: relations :=
      fun hle => hpath ((List.prefix_append path [name]).trans hle)
    simp [owner?, at?_insert_off p c h hpath, hlong]

/-- The names of the relations at every level stay distinct. -/
theorem nodup_insert (h : owners.length = relations.length)
    (hp : ∀ path, (scopeNames ((p.at? path).getD empty).entries).Nodup) (path : List String) :
    (scopeNames (((p.insert relations owners c).at? path).getD empty).entries).Nodup := by
  by_cases hpath : path <+: relations
  · obtain rfl | ⟨name, hnext⟩ := eq_or_next hpath
    · simpa [at?_insert_self p c h] using hp path
    · obtain ⟨owner, es, -, hat, htouched⟩ := at?_insert_of_next p c h hnext
      simpa [hat] using htouched.nodup (hp path)
  · simpa [at?_insert_off p c h hpath] using hp path

end Insert

/-! ## Depth -/

@[simp] theorem depths_append (es fs : List (Entry M)) :
    depths (es ++ fs) = max (depths es) (depths fs) := by
  induction es with
  | nil => simp [depths]
  | cons e es ih => simp [depths, ih, Nat.max_assoc]

/-- A scope that is changed is as deep as it was or as what was put in, and so are the entries. -/
theorem depths_updateFirst {name : String} {owner : M} {n : Nat}
    {change : List (Entry M) → List (Entry M)}
    (h : ∀ inner, depths (change inner) = max (depths inner) n) (es : List (Entry M)) :
    depths (updateFirst name owner change es) = max (depths es) (n + 1) := by
  induction es with
  | nil =>
      have hinner := h []
      simp only [updateFirst, depths, Entry.depth, hinner]
      omega
  | cons e es ih =>
      cases e with
      | condition c =>
          simp only [updateFirst, depths, ih]
          omega
      | related m o inner =>
          have hinner := h inner
          by_cases hm : m = name
          · simp only [updateFirst, if_pos hm, depths, Entry.depth, hinner]
            omega
          · simp only [updateFirst, if_neg hm, depths, Entry.depth, ih]
            omega

/-- A plan is as deep as the longest path. -/
theorem depths_insertInto (c : Condition) : (relations : List String) → (owners : List M) →
    owners.length = relations.length → (es : List (Entry M)) →
    depths (insertInto relations owners c es) = max (depths es) relations.length
  | [], owners, _, es => by simp [insertInto, depths, Entry.depth]
  | name :: names, owner :: owners, h, es =>
      depths_updateFirst (depths_insertInto c names owners (by simpa using h)) es

/-! ## Any insertions in turn -/

end Plan

/-- A condition to be put under a path of relations, each of them given with the model that
it belongs to. -/
structure Insertion (M : Type) where
  relations : List String
  owners : List M
  length_eq : owners.length = relations.length
  condition : Condition

namespace Insertion

variable {M : Type}

/-- The model of a relation on the path, given by the path to its level and its name. -/
def owner? (i : Insertion M) (path : List String) (name : String) : Option M :=
  if path ++ [name] <+: i.relations then i.owners[path.length]? else none

end Insertion

namespace Plan

variable {M : Type}

def add (p : Plan M) (i : Insertion M) : Plan M := p.insert i.relations i.owners i.condition

def addAll (p : Plan M) (is : List (Insertion M)) : Plan M := is.foldl add p

/-- The plan of insertions in turn. -/
def ofInsertions (is : List (Insertion M)) : Plan M := empty.addAll is

@[simp] theorem addAll_nil (p : Plan M) : p.addAll [] = p := rfl

@[simp] theorem addAll_cons (p : Plan M) (i : Insertion M) (is : List (Insertion M)) :
    p.addAll (i :: is) = (p.add i).addAll is := rfl

/-- Insertions may be made in two parts. -/
theorem addAll_append (p : Plan M) (is js : List (Insertion M)) :
    p.addAll (is ++ js) = (p.addAll is).addAll js := List.foldl_append

/-- On a path stand the conditions that were there and those inserted on it, in order. -/
theorem conditionsAt_addAll (p : Plan M) (is : List (Insertion M)) (path : List String) :
    (p.addAll is).conditionsAt path =
      p.conditionsAt path ++ (is.filter (·.relations = path)).map (·.condition) := by
  induction is generalizing p with
  | nil => simp
  | cons i is ih =>
      have hadd : (p.add i).conditionsAt path =
          p.conditionsAt path ++ if i.relations = path then [i.condition] else [] :=
        conditionsAt_insert p i.condition i.length_eq path
      by_cases hi : i.relations = path <;> simp [ih, hadd, hi]

/-- A scope has the owner that it had, or the first that it was inserted with. -/
theorem owner?_addAll (p : Plan M) (is : List (Insertion M)) (path : List String)
    (name : String) :
    (p.addAll is).owner? path name =
      (p.owner? path name).or (is.findSome? fun i => i.owner? path name) := by
  induction is generalizing p with
  | nil => simp
  | cons i is ih =>
      have hadd : (p.add i).owner? path name = (p.owner? path name).or (i.owner? path name) :=
        owner?_insert p i.condition i.length_eq path name
      rw [addAll_cons, ih, hadd, Option.or_assoc, List.findSome?_cons]
      cases i.owner? path name <;> rfl

/-- On every path the names of scopes stay distinct. -/
theorem nodup_addAll (p : Plan M) (is : List (Insertion M))
    (hp : ∀ path, (scopeNames ((p.at? path).getD empty).entries).Nodup) (path : List String) :
    (scopeNames (((p.addAll is).at? path).getD empty).entries).Nodup := by
  induction is generalizing p with
  | nil => exact hp path
  | cons i is ih => exact ih (p.add i) (nodup_insert p i.condition i.length_eq hp)

/-- No scope is left empty. -/
theorem occupied_addAll (p : Plan M) (is : List (Insertion M)) (hp : Occupied p.entries) :
    Occupied (p.addAll is).entries := by
  induction is generalizing p with
  | nil => exact hp
  | cons i is ih => exact ih (p.add i) (occupied_insertInto i.condition i.relations i.owners hp)

/-- Every insertion adds one condition. -/
theorem count_addAll (p : Plan M) (is : List (Insertion M)) :
    (p.addAll is).count = p.count + is.length := by
  induction is generalizing p with
  | nil => rfl
  | cons i is ih =>
      have hadd : (p.add i).count = p.count + 1 :=
        counts_insertInto i.condition i.relations i.owners p.entries
      rw [addAll_cons, ih, hadd, List.length_cons]
      omega

/-- A plan is as deep as it was or as the longest path of an insertion. -/
theorem depth_addAll (p : Plan M) (is : List (Insertion M)) :
    (p.addAll is).depth =
      max p.depth ((is.map fun i => i.relations.length).max?.getD 0) := by
  induction is generalizing p with
  | nil => simp
  | cons i is ih =>
      have hadd : (p.add i).depth = max p.depth i.relations.length :=
        depths_insertInto i.condition i.relations i.owners i.length_eq p.entries
      rw [addAll_cons, ih, hadd, List.map_cons, List.max?_cons, Nat.max_assoc]
      cases (is.map fun i => i.relations.length).max? <;> simp

/-- A plan is a trie of lists: what is known of it after any insertions in turn, and what one
more insertion changes. -/
structure TrieOf (p : Plan M) (is : List (Insertion M)) : Prop where
  /-- The conditions that a path leads to are those that were put there, in order. -/
  conditions : ∀ path,
    p.conditionsAt path = (is.filter (·.relations = path)).map (·.condition)
  /-- No two scopes on one level are of the same relation. -/
  distinct : ∀ path q, p.at? path = some q → (scopeNames q.entries).Nodup
  /-- Every scope holds a condition, on its own level or below. -/
  occupied : Occupied p.entries
  count : p.count = is.length
  /-- The plan is as deep as the longest path. -/
  depth : p.depth = (is.map fun i => i.relations.length).max?.getD 0
  /-- A relation has a scope if it lies on a path, and the scope keeps the model that the first
  insertion on such a path gave for it. -/
  owner : ∀ path name, p.owner? path name = is.findSome? fun i => i.owner? path name
  /-- One more insertion changes no scope that is not on its path, -/
  beside : ∀ i path, ¬ path <+: i.relations → (p.add i).at? path = p.at? path
  /-- nothing on a level that its path leads through but the scope of the next relation, -/
  through : ∀ i path name, path ++ [name] <+: i.relations →
    ∃ owner es, i.owners[path.length]? = some owner ∧ (p.add i).at? path = some ⟨es⟩ ∧
      Touched name owner ((p.at? path).getD empty).entries es
  /-- and on the level where its path ends it adds its condition behind all entries. -/
  last : ∀ i, (p.add i).at? i.relations =
    some ⟨((p.at? i.relations).getD empty).entries ++ [.condition i.condition]⟩

/-- Whatever is put into a plan is found there again, at its path. -/
theorem trieOf_ofInsertions (is : List (Insertion M)) : (ofInsertions is).TrieOf is := by
  constructor
  case conditions =>
    intro path
    have h := conditionsAt_addAll empty is path
    rwa [conditionsAt_empty, List.nil_append] at h
  case distinct =>
    intro path q hq
    have hstart (path : List String) :
        (scopeNames (((empty : Plan M).at? path).getD empty).entries).Nodup := by
      rw [getD_at?_empty]
      exact List.nodup_nil
    have h := nodup_addAll empty is hstart path
    rw [ofInsertions] at hq
    rwa [hq, Option.getD_some] at h
  case occupied => exact occupied_addAll empty is trivial
  case count =>
    have h := count_addAll empty is
    rwa [show (empty : Plan M).count = 0 from rfl, Nat.zero_add] at h
  case depth =>
    have h := depth_addAll empty is
    rwa [show (empty : Plan M).depth = 0 from rfl, Nat.zero_max] at h
  case owner =>
    intro path name
    have h := owner?_addAll empty is path name
    rwa [owner?_empty, Option.none_or] at h
  case beside =>
    intro i path hpath
    exact at?_insert_off _ i.condition i.length_eq hpath
  case through =>
    intro i path name hpath
    exact at?_insert_of_next _ i.condition i.length_eq hpath
  case last => exact fun i => at?_insert_self _ i.condition i.length_eq

end Plan

end Sift
