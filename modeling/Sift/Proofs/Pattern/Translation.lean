import Sift.Proofs.Pattern.Matching

/-!
# Sift.Proofs.Pattern.Translation

From LIKE patterns to GLOB patterns.  Every construct of a LIKE pattern becomes one that
matches the same texts; a character that means something in a GLOB pattern becomes a class of
its own.

Main statement: `glob_toGlob_iff` — a text matches the GLOB pattern of a LIKE pattern exactly
if it matches the LIKE pattern.
-/

namespace Sift.Pattern

variable {p s : List Char} {c d : Char}

/-- A class of one character. -/
def CharClass.single (c : Char) : CharClass := ⟨false, [(c, c)]⟩

theorem CharClass.admits_single : (single c).admits d ↔ c = d := by
  simp only [admits, single, List.any_cons, List.any_nil, Bool.or_false, Bool.bne_false,
    Bool.and_eq_true, decide_eq_true_eq]
  exact ⟨fun h => Char.le_antisymm h.1 h.2, fun h => h ▸ ⟨Char.le_refl c, Char.le_refl c⟩⟩

/-- A character that means something outside of a class is read as a class of its own. -/
theorem readClass_single (hc : c = '*' ∨ c = '?' ∨ c = '[') :
    readClass (c :: ']' :: p) = some (.single c, p) := by
  rcases hc with rfl | rfl | rfl <;> rfl

/-- A character by itself is matched by itself and by nothing else. -/
theorem glob_globLiteral_iff :
    Glob (globLiteral c ++ p) s ↔ ∃ d rest, s = d :: rest ∧ c = d ∧ Glob p rest := by
  unfold globLiteral
  split
  · next h =>
      have hc : c = '*' ∨ c = '?' ∨ c = '[' := by simpa [or_assoc] using h
      simp only [List.cons_append, List.nil_append, glob_class_iff (readClass_single hc),
        CharClass.admits_single]
  · next h =>
      simp only [Bool.or_eq_true, decide_eq_true_eq, not_or] at h
      exact glob_literal_iff h.1.1 h.1.2 h.2

/-- A text matches the GLOB pattern of a LIKE pattern exactly if it matches the LIKE pattern. -/
theorem glob_toGlob_iff (pattern text : List Char) :
    Glob (toGlob pattern) text ↔ Like .exact pattern text := by
  induction pattern using toGlob.induct generalizing text with
  | case1 => rw [toGlob, glob_nil_iff, like_nil_iff]
  | case2 =>
      rw [toGlob, glob_literal_iff (by decide) (by decide) (by decide), like_last_iff rfl]
      simp only [glob_nil_iff, like_nil_iff]
      rfl
  | case3 c rest ih =>
      rw [toGlob, glob_globLiteral_iff, like_escaped_iff rfl]
      simp only [ih]
      rfl
  | case4 rest ih => simp only [toGlob, glob_any_iff, like_any_iff, ih]
  | case5 rest ih => simp only [toGlob, glob_one_iff, like_one_iff, ih]
  | case6 c rest hlast hescaped hany hone ih =>
      -- A backslash would be the last character or have one behind it.
      have hliteral : c ≠ '\\' := by
        rintro rfl
        cases rest with
        | nil => exact hlast rfl rfl
        | cons d rest => exact hescaped d rest rfl rfl
      rw [toGlob, glob_globLiteral_iff, like_literal_iff hany hone fun _ => hliteral]
      · simp only [ih]
        rfl
      all_goals assumption

end Sift.Pattern
