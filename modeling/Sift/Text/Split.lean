/-!
# Sift.Text.Split

Cutting a text at every occurrence of a separator, and replacing one text by
another.  Occurrences are taken from the left and do not overlap.

Main statements:

* `join_split` — joining the pieces with the separator gives the text back;
* `split_append` — the first piece ends at the first separator;
* `replace_append` — what no occurrence starts in stays as it is.
-/

namespace Sift.Text

/-- What follows `start` in `s`, if `s` begins with it. -/
def afterStart : (start s : List Char) → Option (List Char)
  | [], s => some s
  | _ :: _, [] => none
  | a :: start, b :: s => if a = b then afterStart start s else none

theorem eq_append_of_afterStart {start s rest : List Char}
    (h : afterStart start s = some rest) : s = start ++ rest := by
  induction start generalizing s with
  | nil => simp_all [afterStart]
  | cons a start ih =>
      cases s with
      | nil => simp [afterStart] at h
      | cons b s =>
          by_cases hab : a = b
          · rw [afterStart, if_pos hab] at h
            rw [ih h, hab, List.cons_append]
          · simp [afterStart, hab] at h

theorem afterStart_append (start rest : List Char) :
    afterStart start (start ++ rest) = some rest := by
  induction start with
  | nil => rfl
  | cons a start ih => simp [afterStart, ih]

/-- Put a character in front of the first piece. -/
def prepend (c : Char) : List (List Char) → List (List Char)
  | [] => [[c]]
  | piece :: pieces => (c :: piece) :: pieces

/-- The pieces of `s` between the occurrences of the separator `mark :: more`. -/
def split (mark : Char) (more s : List Char) : List (List Char) :=
  match s with
  | [] => [[]]
  | c :: cs =>
    match _h : afterStart (mark :: more) (c :: cs) with
    | some rest => [] :: split mark more rest
    | none => prepend c (split mark more cs)
termination_by s.length
decreasing_by
  · have := congrArg List.length (eq_append_of_afterStart _h)
    simp only [List.length_append, List.length_cons] at this ⊢
    omega
  · simp

/-- The pieces one after another with `between` between them. -/
def join (between : List Char) : List (List Char) → List Char
  | [] => []
  | [piece] => piece
  | piece :: pieces => piece ++ between ++ join between pieces

/-- Every occurrence of `mark :: more` replaced by `new`. -/
def replace (mark : Char) (more new s : List Char) : List Char :=
  join new (split mark more s)

/-! ## Laws -/

theorem split_ne_nil (mark : Char) (more s : List Char) : split mark more s ≠ [] := by
  fun_induction split mark more s with
  | case1 => simp
  | case2 => simp
  | case3 c cs h ih =>
      cases hs : split mark more cs <;> simp [prepend]

theorem join_cons_of_ne_nil (between piece : List Char) {pieces : List (List Char)}
    (h : pieces ≠ []) : join between (piece :: pieces) = piece ++ between ++ join between pieces := by
  cases pieces with
  | nil => exact absurd rfl h
  | cons p ps => rfl

theorem join_prepend (between : List Char) (c : Char) {pieces : List (List Char)}
    (h : pieces ≠ []) : join between (prepend c pieces) = c :: join between pieces := by
  match pieces with
  | [] => exact absurd rfl h
  | [p] => rfl
  | p :: q :: ps => simp [prepend, join]

/-- Nothing is lost between the pieces but the separators. -/
theorem join_split (mark : Char) (more s : List Char) :
    join (mark :: more) (split mark more s) = s := by
  fun_induction split mark more s with
  | case1 => rfl
  | case2 c cs rest h ih =>
      rw [join_cons_of_ne_nil _ _ (split_ne_nil _ _ _), ih, List.nil_append,
        ← eq_append_of_afterStart h]
  | case3 c cs h ih => rw [join_prepend _ _ (split_ne_nil _ _ _), ih]

/-- A character that no separator begins with goes to the first piece. -/
theorem split_cons {mark c : Char} {more s : List Char}
    (h : afterStart (mark :: more) (c :: s) = none) :
    split mark more (c :: s) = prepend c (split mark more s) := by
  rw [split]
  split
  · next hsome => cases h.symm.trans hsome
  · rfl

theorem split_cons_of_ne {mark c : Char} (h : c ≠ mark) (more s : List Char) :
    split mark more (c :: s) = prepend c (split mark more s) :=
  split_cons (by simp [afterStart, Ne.symm h])

/-- A text without the mark is one piece. -/
theorem split_of_notMem {mark : Char} {s : List Char} (h : mark ∉ s) (more : List Char) :
    split mark more s = [s] := by
  induction s with
  | nil => rw [split]
  | cons c s ih =>
      rw [List.mem_cons, not_or] at h
      rw [split_cons_of_ne (Ne.symm h.1), ih h.2, prepend]

/-- The first piece ends at the first separator. -/
theorem split_append {mark : Char} {s : List Char} (h : mark ∉ s) (more t : List Char) :
    split mark more (s ++ (mark :: more ++ t)) = s :: split mark more t := by
  induction s with
  | nil =>
      rw [List.nil_append, List.cons_append, split]
      split
      · next hsome =>
          have hafter := afterStart_append (mark :: more) t
          rw [List.cons_append, hsome] at hafter
          rw [Option.some.inj hafter]
      · next hnone =>
          have hafter := afterStart_append (mark :: more) t
          rw [List.cons_append, hnone] at hafter
          cases hafter
  | cons c s ih =>
      rw [List.mem_cons, not_or] at h
      rw [List.cons_append, split_cons_of_ne (Ne.symm h.1), ih h.2, prepend]

/-! ## Replacing -/

theorem replace_nil (mark : Char) (more new : List Char) : replace mark more new [] = [] := by
  rw [replace, split]
  rfl

/-- An occurrence at the start is replaced. -/
theorem replace_start (mark : Char) (more new s : List Char) :
    replace mark more new (mark :: more ++ s) = new ++ replace mark more new s := by
  have hsplit : split mark more (mark :: more ++ s) = [] :: split mark more s :=
    split_append List.not_mem_nil more s
  rw [replace, hsplit, join_cons_of_ne_nil _ _ (split_ne_nil _ _ _), List.nil_append, replace]

/-- A text in which no occurrence starts stays in front. -/
theorem replace_append {mark : Char} {more : List Char} (new : List Char) {s t : List Char}
    (h : ∀ before c after rest, s = before ++ c :: after →
      c :: after ++ t ≠ mark :: more ++ rest) :
    replace mark more new (s ++ t) = s ++ replace mark more new t := by
  induction s with
  | nil => rfl
  | cons c s ih =>
      have hstart : afterStart (mark :: more) (c :: (s ++ t)) = none :=
        Option.eq_none_iff_forall_ne_some.mpr fun rest hrest =>
          h [] c s rest rfl (eq_append_of_afterStart hrest)
      rw [List.cons_append, replace, split_cons hstart, join_prepend _ _ (split_ne_nil _ _ _), ← replace,
        ih fun before d after rest hs => h (c :: before) d after rest (by rw [hs]; rfl),
        List.cons_append]

end Sift.Text
