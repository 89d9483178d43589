import Sift.Scope.Render

/-!
# Sift.Proofs.Sql.Scan

Templates as one scan from left to right.  A template is written by cutting it at the marks
for the column and each piece at its question marks; what comes out is what a reader writes
who goes through the template once and puts in the column and the values where they belong.
The scan sees the template only: neither the column nor a value is ever looked at.

Main statements:

* `pushTemplate_eq` — a template is written as it is scanned;
* `text_pushMarks` — what is written are the texts that the marks stand for;
* `params_pushMarks` — question marks bind the first values, as long as there are any;
* `scanned_render` — all of it together, for a condition in a template.
-/

namespace Sift

open Sql (Fragment)

namespace Sql

/-! ## Scanning -/

/-- What a scan of a template meets. -/
inductive Mark where
  | column
  | value
  | character (c : Char)
deriving DecidableEq, Repr

/-- How a mark stands in a template. -/
def Mark.text : Mark → List Char
  | column => Condition.columnMark.toList
  | value => ['?']
  | character c => [c]

/-- The marks of a template, from left to right. -/
def scan (template : List Char) : List Mark :=
  match template with
  | [] => []
  | c :: cs =>
    if Condition.columnMark.toList <+: c :: cs then
      .column :: scan ((c :: cs).drop Condition.columnMark.toList.length)
    else
      (if c = '?' then .value else .character c) :: scan cs
termination_by template.length
decreasing_by
  · have hmark : Condition.columnMark.toList.length = 8 := rfl
    rw [hmark, List.length_drop, List.length_cons]
    omega
  · simp

/-- A scan leaves nothing out. -/
theorem flatMap_text_scan (template : List Char) :
    (scan template).flatMap Mark.text = template := by
  fun_induction scan template with
  | case1 => rfl
  | case2 c cs h ih =>
      rw [List.flatMap_cons, ih]
      exact List.prefix_iff_eq_append.mp h
  | case3 c cs h ih =>
      rw [List.flatMap_cons, ih]
      split
      · next hc => rw [hc]; rfl
      · rfl

/-- Every question mark stands for a value, and nothing else does. -/
theorem count_value_scan (template : List Char) :
    (scan template).count .value = template.count '?' := by
  fun_induction scan template with
  | case1 => rfl
  | case2 c cs h ih =>
      have hmark : Condition.columnMark.toList.count '?' = 0 := rfl
      rw [List.prefix_iff_eq_append.mp h |>.symm, List.count_append, hmark, ← ih]
      simp
  | case3 c cs h ih =>
      rw [List.count_cons, List.count_cons, ih]
      split
      · next hc => simp [hc]
      · next hc => simp [hc]

/-- What looks like the beginning of a mark is taken character by character. -/
example : scan ['\x7b', 'c', '\x7b', 'c', 'o', 'l', 'u', 'm', 'n', '\x7d', '?'] =
    [.character '\x7b', .character 'c', .column, .value] := by
  decide +kernel

/-- The text that marks stand for, where placeholders are numbered from `number`: the name of
the column at each of its marks, and a placeholder for each question mark as long as one of
the `left` values is left. -/
def textOf (d : Dialect) (name : String) (number : Nat) : List Mark → (left : Nat) → String
  | [], _ => ""
  | .column :: marks, left => name ++ textOf d name number marks left
  | .value :: marks, left + 1 => d.placeholder number ++ textOf d name (number + 1) marks left
  | .value :: marks, 0 => "?" ++ textOf d name number marks 0
  | .character c :: marks, left => String.singleton c ++ textOf d name number marks left

/-! ## Writing what has been scanned -/

namespace Fragment

/-- Write marks in turn: the column at each of its marks, and a placeholder for the next
value at each question mark, as long as there is one. -/
def pushMarks (f : Fragment) (qualifier column : String) : List Mark → List Value → Fragment
  | [], _ => f
  | .column :: marks, params =>
    (f.pushColumn qualifier column).pushMarks qualifier column marks params
  | .value :: marks, v :: params => (f.pushParam v).pushMarks qualifier column marks params
  | .value :: marks, [] => (f.push "?").pushMarks qualifier column marks []
  | .character c :: marks, params =>
    (f.push (String.singleton c)).pushMarks qualifier column marks params

/-- What is written are the texts that the marks stand for, with the column by its name and
its qualifier. -/
theorem text_pushMarks (f : Fragment) (qualifier column : String) (marks : List Mark)
    (params : List Value) :
    (f.pushMarks qualifier column marks params).text = f.text ++
      textOf f.dialect
        (f.dialect.quoteIdentifier qualifier ++ "." ++ f.dialect.quoteIdentifier column)
        (f.params.length + 1) marks params.length := by
  fun_induction pushMarks f qualifier column marks params with
  | case1 f params => simp [textOf]
  | case2 f marks params ih => simp [ih, textOf, text_pushColumn, String.append_assoc]
  | case3 f marks v params ih => simp [ih, textOf, String.append_assoc]
  | case4 f marks ih => simp [ih, textOf, String.append_assoc]
  | case5 f c marks params ih =>
      rw [ih, text_push, dialect_push, params_push, String.append_assoc]
      rfl

/-- The dialect stays while marks are written. -/
theorem dialect_pushMarks (f : Fragment) (qualifier column : String) (marks : List Mark)
    (params : List Value) :
    (f.pushMarks qualifier column marks params).dialect = f.dialect := by
  fun_induction pushMarks f qualifier column marks params with
  | case1 f params => rfl
  | case2 f marks params ih => exact ih
  | case3 f marks v params ih => exact ih
  | case4 f marks ih => exact ih
  | case5 f c marks params ih => exact ih

/-- The first values are bound, one for each question mark. -/
theorem params_pushMarks (f : Fragment) (qualifier column : String) (marks : List Mark)
    (params : List Value) :
    (f.pushMarks qualifier column marks params).params =
      f.params ++ params.take (marks.count .value) := by
  fun_induction pushMarks f qualifier column marks params with
  | case1 f params => simp
  | case2 f marks params ih => simpa using ih
  | case3 f marks v params ih => simpa using ih
  | case4 f marks ih => simpa using ih
  | case5 f c marks params ih => simpa using ih

/-! ## Pieces and marks -/

section Pieces

variable {f g : Fragment} {qualifier column : String} {params params' : List Value}

theorem push_empty : f.push "" = f := by
  simp [push]

theorem push_push (s t : String) : (f.push s).push t = f.push (s ++ t) := by
  simp [push, String.append_assoc]

/-- A character in front of the first chunk is written first. -/
theorem pushChunks_prepend (c : Char) {chunks : List (List Char)} (h : chunks ≠ []) :
    f.pushChunks (Text.prepend c chunks) params =
      (f.push (String.singleton c)).pushChunks chunks params := by
  have hpush (chunk : List Char) : f.push (String.ofList (c :: chunk)) =
      (f.push (String.singleton c)).push (String.ofList chunk) := by
    rw [push_push, String.singleton_eq_ofList, ← String.ofList_append, List.singleton_append]
  match chunks, params with
  | [chunk], _ => simp only [Text.prepend, pushChunks, hpush]
  | chunk :: next :: chunks, [] => simp only [Text.prepend, pushChunks, hpush]
  | chunk :: next :: chunks, v :: params => simp only [Text.prepend, pushChunks, hpush]

/-- What is written for a piece that begins with a character other than a question mark. -/
theorem pushChunks_character {c : Char} (hc : c ≠ '?') (piece : List Char) :
    f.pushChunks (Text.split '?' [] (c :: piece)) params =
      (f.push (String.singleton c)).pushChunks (Text.split '?' [] piece) params := by
  rw [Text.split_cons_of_ne hc, pushChunks_prepend c (Text.split_ne_nil _ _ _)]

/-- A question mark in front makes an empty chunk. -/
theorem exists_split_questionMark (piece : List Char) : ∃ chunk chunks,
    Text.split '?' [] piece = chunk :: chunks ∧
      Text.split '?' [] ('?' :: piece) = [] :: chunk :: chunks := by
  obtain ⟨chunk, chunks, hchunks⟩ := List.exists_cons_of_ne_nil (Text.split_ne_nil '?' [] piece)
  have hsplit : Text.split '?' [] ('?' :: piece) = [] :: Text.split '?' [] piece :=
    Text.split_append List.not_mem_nil [] piece
  exact ⟨chunk, chunks, hchunks, hchunks ▸ hsplit⟩

theorem pushChunks_value (v : Value) (piece : List Char) :
    f.pushChunks (Text.split '?' [] ('?' :: piece)) (v :: params) =
      (f.pushParam v).pushChunks (Text.split '?' [] piece) params := by
  obtain ⟨chunk, chunks, hpiece, hmark⟩ := exists_split_questionMark piece
  simp only [hpiece, hmark, pushChunks, String.ofList_nil, push_empty]

theorem pushChunks_noValue (piece : List Char) :
    f.pushChunks (Text.split '?' [] ('?' :: piece)) [] =
      (f.push "?").pushChunks (Text.split '?' [] piece) [] := by
  obtain ⟨chunk, chunks, hpiece, hmark⟩ := exists_split_questionMark piece
  simp only [hpiece, hmark, pushChunks, String.ofList_nil, push_empty]

/-- Pieces are written alike behind what is written alike for the first of them. -/
theorem pushPieces_of_pushChunks {piece piece' : List Char} (pieces : List (List Char))
    (h : f.pushChunks (Text.split '?' [] piece) params =
      g.pushChunks (Text.split '?' [] piece') params') :
    f.pushPieces qualifier column (piece :: pieces) params =
      g.pushPieces qualifier column (piece' :: pieces) params' := by
  cases pieces with
  | nil => simp only [pushPieces, h]
  | cons next pieces => simp only [pushPieces, h]

/-- Behind an empty piece the column is written. -/
theorem pushPieces_nil_cons {pieces : List (List Char)} (h : pieces ≠ []) :
    f.pushPieces qualifier column ([] :: pieces) params =
      (f.pushColumn qualifier column).pushPieces qualifier column pieces params := by
  obtain ⟨next, pieces, rfl⟩ := List.exists_cons_of_ne_nil h
  simp only [pushPieces, Text.split_of_notMem List.not_mem_nil, pushChunks, String.ofList_nil,
    push_empty]

end Pieces

/-- A text that does not begin with another one has nothing behind it. -/
theorem afterStart_eq_none {start s : List Char} (h : ¬ start <+: s) :
    Text.afterStart start s = none :=
  Option.eq_none_iff_forall_ne_some.mpr fun rest hrest =>
    h ⟨rest, (Text.eq_append_of_afterStart hrest).symm⟩

/-- A template is written as it is scanned. -/
theorem pushTemplate_eq (f : Fragment) (qualifier column template : String)
    (params : List Value) :
    f.pushTemplate qualifier column template params =
      f.pushMarks qualifier column (scan template.toList) params := by
  unfold pushTemplate columnPieces
  generalize template.toList = s
  -- the scan and the cut at the marks for the column go through the template alike
  fun_induction scan s generalizing f params with
  | case1 =>
      rw [Text.split_of_notMem List.not_mem_nil, pushPieces,
        Text.split_of_notMem List.not_mem_nil, pushChunks, String.ofList_nil, push_empty, pushMarks]
  | case2 c cs h ih =>
      have hsplit : Text.split '\x7b' ['c', 'o', 'l', 'u', 'm', 'n', '\x7d'] (c :: cs) =
          [] :: Text.split '\x7b' ['c', 'o', 'l', 'u', 'm', 'n', '\x7d']
            ((c :: cs).drop Condition.columnMark.toList.length) := by
        obtain ⟨rest, hrest⟩ := h
        rw [← hrest, List.drop_left]
        exact Text.split_append List.not_mem_nil _ rest
      rw [hsplit, pushPieces_nil_cons (Text.split_ne_nil _ _ _), pushMarks, ih]
  | case3 c cs h ih =>
      obtain ⟨piece, pieces, hpieces⟩ := List.exists_cons_of_ne_nil
        (Text.split_ne_nil '\x7b' ['c', 'o', 'l', 'u', 'm', 'n', '\x7d'] cs)
      rw [hpieces] at ih
      have hmark : Condition.columnMark.toList =
          '\x7b' :: ['c', 'o', 'l', 'u', 'm', 'n', '\x7d'] := rfl
      rw [hmark] at h
      rw [Text.split_cons (afterStart_eq_none h), hpieces, Text.prepend]
      split
      · next hc =>
          subst hc
          cases params with
          | nil => rw [pushPieces_of_pushChunks pieces (pushChunks_noValue piece), pushMarks, ih]
          | cons v params =>
              rw [pushPieces_of_pushChunks pieces (pushChunks_value v piece), pushMarks, ih]
      · next hc =>
          rw [pushPieces_of_pushChunks pieces (pushChunks_character hc piece), pushMarks, ih]

end Fragment

end Sql

/-! ## Conditions in templates -/

/-- What is written for a condition in a template, and what is bound by it. -/
structure Condition.Scanned (qualifier column template : String) (params : List Value)
    (f g : Fragment) : Prop where
  /-- It is written in one scan of the template: -/
  written : g = f.pushMarks qualifier column (Sql.scan template.toList) params
  /-- the quoted qualifier, a dot and the quoted column where the column is marked, the next
  placeholders for the question marks while there are values, and all else as it stands. -/
  text : g.text = f.text ++
    Sql.textOf f.dialect
      (f.dialect.quoteIdentifier qualifier ++ "." ++ f.dialect.quoteIdentifier column)
      (f.params.length + 1) (Sql.scan template.toList) params.length
  /-- The dialect stays. -/
  dialect : g.dialect = f.dialect
  /-- The scan takes the template as it is, and leaves nothing out. -/
  whole : (Sql.scan template.toList).flatMap Sql.Mark.text = template.toList
  /-- The first values are bound in order, one for each question mark. -/
  bound : g.params = f.params ++ params.take (min (template.toList.count '?') params.length)

/-- A condition in a template is written in one scan of it, whatever stands in the template,
whatever the column is called, and however many values there are. -/
theorem Condition.scanned_render (qualifier column template : String) (params : List Value)
    (f : Fragment) :
    Scanned qualifier column template params f
      ((Condition.raw column template params).render qualifier f) where
  written := f.pushTemplate_eq qualifier column template params
  text := by
    rw [← Fragment.text_pushMarks f qualifier column]
    exact congrArg Fragment.text (f.pushTemplate_eq qualifier column template params)
  dialect := by
    rw [← f.dialect_pushMarks qualifier column (Sql.scan template.toList) params]
    exact congrArg Fragment.dialect (f.pushTemplate_eq qualifier column template params)
  whole := Sql.flatMap_text_scan template.toList
  bound := by
    rw [← List.take_eq_take_min, ← Sql.count_value_scan,
      ← Fragment.params_pushMarks f qualifier column]
    exact congrArg Fragment.params (f.pushTemplate_eq qualifier column template params)

/-- A column whose name looks like a mark is put in as it is; the second question mark gets the
next placeholder, and one without a value stays. -/
theorem Condition.scanned_between :
    let f : Fragment := ⟨.postgres, "SELECT 1 WHERE $1 AND ", [.bool true]⟩
    let g := (Condition.raw "why?" "\x7bcolumn\x7d BETWEEN ? AND ?" [.int 3]).render "users" f
    g.text = "SELECT 1 WHERE $1 AND users.\"why?\" BETWEEN $2 AND ?" ∧
      g.params = [.bool true, .int 3] := by
  intro f g
  have h := scanned_render "users" "why?" "\x7bcolumn\x7d BETWEEN ? AND ?" [.int 3] f
  refine ⟨h.text.trans ?_, h.bound.trans rfl⟩
  decide +kernel

end Sift
