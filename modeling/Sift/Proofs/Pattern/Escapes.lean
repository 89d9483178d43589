import Sift.Proofs.Pattern.Translation

/-!
# Sift.Proofs.Pattern.Escapes

Backslashes in patterns.  In the GLOB pattern of a LIKE pattern a backslash has taken the next
character by itself, while SQLite reads LIKE without an escape character, in which a backslash
stands for itself.

Main statement: `like_of_glob_toGlob_iff` — LIKE lets through what the GLOB pattern does exactly
if there is no backslash that has a character behind it.
-/

namespace Sift.Pattern

variable {p s : List Char} {c d : Char}

/-- How SQLite reads LIKE without an escape character: letters of ASCII stand for each other in
either case, and a backslash stands for itself. -/
def LikeRules.sqlite : LikeRules := ⟨fun c d => c.toLower = d.toLower, false⟩

/-- Without escapes every character but the two signs stands for itself, in either case. -/
theorem like_sqlite_literal_iff (hany : c ≠ '%') (hone : c ≠ '_') : Like .sqlite (c :: p) s ↔
    ∃ d rest, s = d :: rest ∧ c.toLower = d.toLower ∧ Like .sqlite p rest :=
  like_literal_iff hany hone fun hescape => nomatch hescape

/-- Only a backslash stands for a backslash. -/
theorem eq_backslash_of_toLower_eq (h : '\\'.toLower = d.toLower) : d = '\\' := by
  unfold Char.toLower at h
  split at h
  · next hupper => exact absurd hupper (by decide)
  · split at h
    · next hd =>
        have hval := congrArg (fun c : Char => c.val.toNat) h
        have hge := UInt32.le_iff_toNat_le.mp hd.1
        have hle := UInt32.le_iff_toNat_le.mp hd.2
        simp only [UInt32.toNat_add] at hval
        simp at hval hge hle
        omega
    · exact h.symm

/-! ## The last character -/

theorem mem_dropLast_cons (h : d ∈ p.dropLast) : d ∈ (c :: p).dropLast := by
  cases p with
  | nil => cases h
  | cons e p => exact List.mem_cons_of_mem c h

theorem mem_dropLast_of_ne (hne : c ≠ d) (h : d ∈ (c :: p).dropLast) : d ∈ p.dropLast := by
  cases p with
  | nil => cases h
  | cons e p => exact (List.mem_cons.mp h).resolve_left hne.symm

/-! ## Patterns in which no character is taken by itself -/

/-- Where no backslash has a character behind it, LIKE lets through what the GLOB pattern
does. -/
theorem like_of_glob_toGlob (hp : '\\' ∉ p.dropLast) (h : Glob (toGlob p) s) :
    Like .sqlite p s := by
  induction p using toGlob.induct generalizing s with
  | case1 =>
      rw [toGlob, glob_nil_iff] at h
      exact like_nil_iff.mpr h
  | case2 =>
      rw [toGlob, glob_literal_iff (by decide) (by decide) (by decide)] at h
      obtain ⟨d, rest, rfl, rfl, h⟩ := h
      obtain rfl := glob_nil_iff.mp h
      exact (like_sqlite_literal_iff (by decide) (by decide)).mpr ⟨_, _, rfl, rfl, .done⟩
  | case3 c rest ih => exact absurd List.mem_cons_self hp
  | case4 rest ih =>
      rw [toGlob, glob_any_iff] at h
      obtain ⟨t, ht, h⟩ := h
      exact .any ht (ih (fun hmem => hp (mem_dropLast_cons hmem)) h)
  | case5 rest ih =>
      rw [toGlob, glob_one_iff] at h
      obtain ⟨d, t, rfl, h⟩ := h
      exact .one (ih (fun hmem => hp (mem_dropLast_cons hmem)) h)
  | case6 c rest hlast hescaped hany hone ih =>
      rw [toGlob, glob_globLiteral_iff] at h
      · obtain ⟨d, t, rfl, rfl, h⟩ := h
        exact (like_sqlite_literal_iff hany hone).mpr
          ⟨_, _, rfl, rfl, ih (fun hmem => hp (mem_dropLast_cons hmem)) h⟩
      all_goals assumption

/-! ## Patterns in which some character is taken by itself -/

/-- A text that the GLOB pattern of a LIKE pattern matches: nothing in place of any text, and a
letter in place of any character. -/
def sample : List Char → List Char
  | [] => []
  | ['\\'] => ['\\']
  | '\\' :: c :: rest => c :: sample rest
  | '%' :: rest => sample rest
  | '_' :: rest => 'x' :: sample rest
  | c :: rest => c :: sample rest

/-- The sample of a pattern is matched by its translation. -/
theorem glob_toGlob_sample (p : List Char) : Glob (toGlob p) (sample p) := by
  induction p using sample.induct with
  | case1 => exact .done
  | case2 => exact .literal (by decide) (by decide) (by decide) .done
  | case3 c rest ih =>
      rw [toGlob, sample]
      exact glob_globLiteral_iff.mpr ⟨c, _, rfl, rfl, ih⟩
  | case4 rest ih =>
      rw [toGlob, sample]
      exact .any (List.suffix_refl _) ih
  | case5 rest ih =>
      rw [toGlob, sample]
      exact .one ih
  | case6 c rest hlast hescaped hany hone ih =>
      rw [toGlob, sample]
      · exact glob_globLiteral_iff.mpr ⟨c, _, rfl, rfl, ih⟩
      all_goals assumption

/-- A text that LIKE lets through has all the backslashes of the pattern. -/
theorem count_le_of_like (h : Like .sqlite p s) : p.count '\\' ≤ s.count '\\' := by
  induction h with
  | done => exact Nat.le_refl _
  | any hrest h ih =>
      rw [List.count_cons_of_ne (by decide)]
      exact Nat.le_trans ih (hrest.sublist.count_le _)
  | one h ih =>
      rw [List.count_cons_of_ne (by decide)]
      exact Nat.le_trans ih List.count_le_count_cons
  | escaped hescape => cases hescape
  | last hescape => cases hescape
  | @literal p s c d hany hone hescape hsame h ih =>
      by_cases hc : c = '\\'
      · subst hc
        rw [eq_backslash_of_toLower_eq hsame, List.count_cons_self, List.count_cons_self]
        exact Nat.succ_le_succ ih
      · rw [List.count_cons_of_ne hc]
        exact Nat.le_trans ih List.count_le_count_cons

/-- A sample has no more backslashes than its pattern. -/
theorem count_sample_le (p : List Char) : (sample p).count '\\' ≤ p.count '\\' := by
  induction p using sample.induct with
  | case1 | case2 => exact Nat.le_refl _
  | case3 c rest ih =>
      rw [sample, List.count_cons_self, List.count_cons, List.count_cons]
      omega
  | case4 rest ih =>
      rw [sample]
      exact Nat.le_trans ih List.count_le_count_cons
  | case5 rest ih =>
      rw [sample, List.count_cons_of_ne (by decide), List.count_cons_of_ne (by decide)]
      exact ih
  | case6 c rest hlast hescaped hany hone ih =>
      rw [sample, List.count_cons, List.count_cons]
      · exact Nat.add_le_add_right ih _
      all_goals assumption

/-- A backslash that takes the next character by itself is not in the sample. -/
theorem count_sample_lt (hp : '\\' ∈ p.dropLast) : (sample p).count '\\' < p.count '\\' := by
  induction p using sample.induct with
  | case1 | case2 => cases hp
  | case3 c rest ih =>
      have hrest := count_sample_le rest
      rw [sample, List.count_cons_self, List.count_cons, List.count_cons]
      omega
  | case4 rest ih =>
      rw [sample, List.count_cons_of_ne (by decide)]
      exact ih (mem_dropLast_of_ne (by decide) hp)
  | case5 rest ih =>
      rw [sample, List.count_cons_of_ne (by decide), List.count_cons_of_ne (by decide)]
      exact ih (mem_dropLast_of_ne (by decide) hp)
  | case6 c rest hlast hescaped hany hone ih =>
      -- A backslash would be the last character or have one behind it.
      have hc : c ≠ '\\' := by
        rintro rfl
        cases rest with
        | nil => exact hlast rfl rfl
        | cons d rest => exact hescaped d rest rfl rfl
      rw [sample, List.count_cons_of_ne hc, List.count_cons_of_ne hc]
      · exact ih (mem_dropLast_of_ne hc hp)
      all_goals assumption

/-- LIKE lets through what the GLOB pattern does exactly if no backslash has a character behind
it.  Otherwise the sample has fewer backslashes than the pattern. -/
theorem like_of_glob_toGlob_iff :
    (∀ s, Glob (toGlob p) s → Like .sqlite p s) ↔ '\\' ∉ p.dropLast := by
  constructor
  · intro h hp
    have hle := count_le_of_like (h _ (glob_toGlob_sample p))
    exact Nat.not_le_of_lt (count_sample_lt hp) hle
  · exact fun hp s h => like_of_glob_toGlob hp h

end Sift.Pattern
