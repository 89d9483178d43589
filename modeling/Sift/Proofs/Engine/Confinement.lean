import Sift.Proofs.Engine.Filter
import Sift.Proofs.Operator.Shape
import Sift.Proofs.Plan.Shape
import Sift.Proofs.Resolver.Outline

/-!
# Sift.Proofs.Engine.Confinement

The values in a filter are confined to the parameters of the statement.  Two filters with
the same keys whose arguments differ in their values only make queries that are written
the same.

Main statements:

* `shapes_gather` — such filters make conditions of the same shapes in the same places;
* `text_filter_eq` — so the statements have the same text, and bind equally many values.
-/

namespace Sift

/-! ## Filters that differ in values -/

namespace Filter

/-- What stands under a key of two filters: arguments that agree, if the key is a built-in
operator. -/
def ArgumentsAgree (r : Registry) (key : String) (f f' : Filter) : Prop :=
  ∀ e op vs ws, r.lookup key = some e → e.kind = some op →
    f.arguments? = some vs → f'.arguments? = some ws → op.Agree vs ws

/-- A group is no argument of an operator. -/
@[simp] theorem argumentsAgree_group (r : Registry) (key : String)
    (entries : List (String × Filter)) (f : Filter) :
    ArgumentsAgree r key (.group entries) f := by
  intro e op vs ws _ _ hvs
  simp [arguments?] at hvs

mutual

/-- Two filters have the same keys in the same order at every level, and arguments that
agree. -/
def SameKeys (r : Registry) : Filter → Filter → Prop
  | .group entries, .group entries' => SameKeysEach r entries entries'
  | .leaf _, .leaf _ => True
  | _, _ => False

/-- The entries of two filters have the same keys in the same order, and arguments that
agree. -/
def SameKeysEach (r : Registry) : List (String × Filter) → List (String × Filter) → Prop
  | [], [] => True
  | (key, f) :: rest, (key', f') :: rest' =>
    key = key' ∧ ArgumentsAgree r key f f' ∧ SameKeys r f f' ∧ SameKeysEach r rest rest'
  | _, _ => False

end

end Filter

/-! ## Conditions in their places -/

namespace Resolver

variable {M : Type} {r : Resolver} (g : ModelGraph M) (dialect : Dialect)

mutual

/-- Filters that differ in values only make conditions of the same shapes in the same
places. -/
theorem shapes_gather (hbuiltIn : r.registry.BuiltIn) (m : M) (field : String) :
    (f f' : Filter) → f.SameKeys r.registry f' → r.Accepts g dialect m field f →
    r.Accepts g dialect m field f' →
    (r.gather g dialect m field f).placements.map Placement.shape =
      (r.gather g dialect m field f').placements.map Placement.shape
  | .leaf v, _, _, h, _ => by simp [Accepts] at h
  | .group entries, .leaf w, _, _, h' => by simp [Accepts] at h'
  | .group entries, .group entries', hkeys, h, h' => by
      rw [Filter.SameKeys] at hkeys
      rw [Accepts] at h h'
      rw [gather, gather, if_neg (by simpa using h.2.1), if_neg (by simpa using h'.2.1)]
      exact shapes_gatherEach hbuiltIn m field entries entries' hkeys h.2.2 h'.2.2

/-- So do entries under a field. -/
theorem shapes_gatherEach (hbuiltIn : r.registry.BuiltIn) (m : M) (field : String) :
    (entries entries' : List (String × Filter)) →
    Filter.SameKeysEach r.registry entries entries' →
    r.AcceptsEach g dialect m field entries → r.AcceptsEach g dialect m field entries' →
    (r.gatherEach g dialect m field entries).placements.map Placement.shape =
      (r.gatherEach g dialect m field entries').placements.map Placement.shape
  | [], [], _, _, _ => rfl
  | [], _ :: _, hkeys, _, _ => by simp [Filter.SameKeysEach] at hkeys
  | _ :: _, [], hkeys, _, _ => by simp [Filter.SameKeysEach] at hkeys
  | (key, f) :: rest, (key', f') :: rest', hkeys, h, h' => by
      rw [Filter.SameKeysEach] at hkeys
      rw [AcceptsEach] at h h'
      obtain ⟨rfl, hagree, hsame, hkeys⟩ := hkeys
      obtain ⟨hpermits, hf, hrest⟩ := h
      obtain ⟨-, hf', hrest'⟩ := h'
      have ih := shapes_gatherEach hbuiltIn m field rest rest' hkeys hrest hrest'
      cases hkey : r.registry.lookup key with
      | some e =>
          rw [hkey] at hf hf'
          obtain ⟨vs, c, hvs, hc⟩ := hf
          obtain ⟨ws, d, hws, hd⟩ := hf'
          have hentry := hbuiltIn.of_lookup hkey
          have hargs := fun op hop => hagree e op vs ws hkey hop hvs hws
          have hshape := Registry.Entry.shape_build hentry hargs hc hd
          rw [placements_gatherEach_operator hpermits hkey hvs hc,
            placements_gatherEach_operator hpermits hkey hws hd, List.map_cons, List.map_cons, ih]
          simp [Placement.shape, hshape]
      | none =>
          rw [hkey] at hf hf'
          obtain ⟨related, join, hrel, haccepts⟩ := hf
          obtain ⟨related', join', hrel', haccepts'⟩ := hf'
          obtain rfl : related' = related := by simp_all
          have hinner := shapes_gather hbuiltIn related' key f f' hsame haccepts haccepts'
          rw [placements_gatherEach_relation hpermits hkey hrel haccepts,
            placements_gatherEach_relation hpermits hkey hrel' haccepts', List.map_append,
            List.map_append, Placement.map_shape_under, Placement.map_shape_under, hinner, ih]

end

end Resolver

/-! ## Statements -/

namespace Engine

/-- Keys with what stands under them make clauses of the same shapes, if they differ in
values only. -/
theorem shapes_clauses {e : Engine} (hbuiltIn : e.resolver.registry.BuiltIn)
    (m : e.catalog.Model) : (entries entries' : List (String × Filter)) →
    Filter.SameKeysEach e.resolver.registry entries entries' →
    (∀ x ∈ entries, e.resolver.Accepts e.catalog.graph e.dialect m x.1 x.2) →
    (∀ x ∈ entries', e.resolver.Accepts e.catalog.graph e.dialect m x.1 x.2) →
    Clause.shapes (e.clauses m entries) = Clause.shapes (e.clauses m entries')
  | [], [], _, _, _ => rfl
  | [], _ :: _, hkeys, _, _ => by simp [Filter.SameKeysEach] at hkeys
  | _ :: _, [], hkeys, _, _ => by simp [Filter.SameKeysEach] at hkeys
  | (key, f) :: rest, (key', f') :: rest', hkeys, h, h' => by
      rw [Filter.SameKeysEach] at hkeys
      obtain ⟨rfl, -, hsame, hkeys⟩ := hkeys
      rw [List.forall_mem_cons] at h h'
      have ih := shapes_clauses hbuiltIn m rest rest' hkeys h.2 h'.2
      have hshapes := Resolver.shapes_gather e.catalog.graph e.dialect hbuiltIn m key f f' hsame
        h.1 h'.1
      have hfirst := Plan.shapes_clausesOf_ofPlacements hshapes e.catalog.graph
        (.root e.dialect (e.catalog.declaration m).tableName)
      simp only [clauses, Resolver.plansOf, List.map_cons, List.flatMap_cons,
        Clause.shapes_append] at ih ⊢
      rw [hfirst, ih]

/-- Two filters with the same keys whose arguments differ in their values only make
statements that have the same text and bind equally many values. -/
theorem text_filter_eq {e : Engine} (hbuiltIn : e.resolver.registry.BuiltIn) {name : String}
    {f f' : Filter} (hkeys : f.SameKeys e.resolver.registry f') {s s' : Scope}
    (hs : (e.filter name f).outcome = .ok s) (hs' : (e.filter name f').outcome = .ok s') :
    s.whereSql.text = s'.whereSql.text ∧
      s.whereSql.params.length = s'.whereSql.params.length ∧
      s.selectSql.text = s'.selectSql.text ∧
      s.selectSql.params.length = s'.selectSql.params.length := by
  obtain ⟨m, entries, hfind, rfl, haccepts, rfl⟩ := filter_ok hs
  obtain ⟨m', entries', hfind', rfl, haccepts', rfl⟩ := filter_ok hs'
  obtain rfl : m' = m := Option.some.inj (hfind'.symm.trans hfind)
  rw [Filter.SameKeys] at hkeys
  have hshapes := shapes_clauses hbuiltIn m' entries entries' hkeys haccepts haccepts'
  obtain ⟨hwhere, hselect⟩ := Scope.alike_of_shapes_eq hshapes
  exact ⟨hwhere.text, hwhere.params, hselect.text, hselect.params⟩

/-- A pattern that looks like part of a statement does not become part of it. -/
theorem text_library_eq :
    let f : Filter := .group [("books", .group
      [("title", .group [("$like", .leaf (.text "Emma%"))]),
       ("year", .group [("$in", .leaf (.list [.int 1815, .int 1816]))])])]
    let f' : Filter := .group [("books", .group
      [("title", .group [("$like", .leaf (.text "' OR \x7bcolumn\x7d = $1 ? \\"))]),
       ("year", .group [("$in", .leaf (.list [.text "?", .bool true]))])])]
    ∃ s s', (library.filter "Author" f).outcome = .ok s ∧
      (library.filter "Author" f').outcome = .ok s' ∧
      s.whereSql.text = s'.whereSql.text ∧
      s.whereSql.params.length = s'.whereSql.params.length ∧
      s.selectSql.text = s'.selectSql.text ∧
      s.selectSql.params.length = s'.selectSql.params.length := by
  intro f f'
  have hlike : Filter.ArgumentsAgree .defaults "$like" (.leaf (.text "Emma%"))
      (.leaf (.text "' OR \x7bcolumn\x7d = $1 ? \\")) := by
    rintro e op vs ws ⟨⟩ ⟨⟩ ⟨⟩ ⟨⟩
    exact ⟨rfl, by simp⟩
  have hin : Filter.ArgumentsAgree .defaults "$in" (.leaf (.list [.int 1815, .int 1816]))
      (.leaf (.list [.text "?", .bool true])) := by
    rintro e op vs ws ⟨⟩ ⟨⟩ ⟨⟩ ⟨⟩
    exact ⟨rfl, by simp⟩
  have hkeys : f.SameKeys .defaults f' := by
    simp [f, f', Filter.SameKeys, Filter.SameKeysEach, hlike, hin]
  have hs : (library.filter "Author" f).outcome = .ok _ := rfl
  have hs' : (library.filter "Author" f').outcome = .ok _ := rfl
  exact ⟨_, _, hs, hs', text_filter_eq Registry.builtIn_defaults hkeys hs hs'⟩

end Engine

end Sift
