import Sift.Proofs.Operator.Build
import Sift.Proofs.Scope.Tokens

/-!
# Sift.Proofs.Operator.Template

The templates that built-in operators write.  In each of them the column stands once and
one value stands once behind it.

Main statements:

* `ofParts_text` — a template with one column and one value is cut at the two;
* `templated_build` — a built-in operator makes conditions in one of the templates only.
-/

namespace Sift

open Sql (Piece Rows)

/-! ## Templates with one column and one value -/

/-- The texts around the column and the value. -/
structure Sql.Template where
  before : String
  middle : String
  after : String

namespace Sql.Template

def text (t : Template) : String :=
  t.before ++ Condition.columnMark ++ t.middle ++ "?" ++ t.after

/-- Whether neither mark begins in a text. -/
def unmarked (s : String) : Bool := s.toList.all fun c => c ≠ '\x7b' && c ≠ '?'

/-- Whether there are no marks but the two. -/
def isMarkedOnce (t : Template) : Bool :=
  unmarked t.before && unmarked t.middle && unmarked t.after

/-- An unmarked text has neither of the two marks in it. -/
theorem notMem_of_unmarked {s : String} (h : unmarked s = true) :
    '\x7b' ∉ s.toList ∧ '?' ∉ s.toList := by
  simp only [unmarked, List.all_eq_true, Bool.and_eq_true, decide_eq_true_eq] at h
  exact ⟨fun hmem => (h _ hmem).1 rfl, fun hmem => (h _ hmem).2 rfl⟩

/-- A template with no other marks is cut at the two. -/
theorem ofParts_text {t : Template} (h : t.isMarkedOnce = true) (rows : Rows)
    (qualifier name : String) (v : Value) :
    Piece.ofParts rows qualifier name (columnPieces t.text) [v] =
      [.text t.before, .column rows qualifier name, .text t.middle, .value v, .text t.after] := by
  simp only [isMarkedOnce, Bool.and_eq_true] at h
  obtain ⟨hbefore, hbefore'⟩ := notMem_of_unmarked h.1.1
  obtain ⟨hmiddle, hmiddle'⟩ := notMem_of_unmarked h.1.2
  obtain ⟨hafter, hafter'⟩ := notMem_of_unmarked h.2
  have hcolumn : columnPieces t.text =
      [t.before.toList, t.middle.toList ++ '?' :: t.after.toList] := by
    have htext : t.text.toList = t.before.toList ++
        ('\x7b' :: ['c', 'o', 'l', 'u', 'm', 'n', '\x7d'] ++
          (t.middle.toList ++ '?' :: t.after.toList)) := by
      simp [text, Condition.columnMark]
    rw [columnPieces, htext, Text.split_append hbefore, Text.split_of_notMem]
    simp [hmiddle, hafter]
  have hvalue : Text.split '?' [] (t.middle.toList ++ '?' :: t.after.toList) =
      [t.middle.toList, t.after.toList] := by
    have hsplit := Text.split_append hmiddle' [] t.after.toList
    rwa [Text.split_of_notMem hafter'] at hsplit
  simp [hcolumn, Piece.ofParts, Text.split_of_notMem hbefore', hvalue, Piece.ofChunks]

/-- A template without marks is written as it stands. -/
theorem ofParts_unmarked {template : String} (h : unmarked template = true) (rows : Rows)
    (qualifier name : String) (params : List Value) :
    Piece.ofParts rows qualifier name (columnPieces template) params = [.text template] := by
  obtain ⟨hcolumn, hvalue⟩ := notMem_of_unmarked h
  simp [columnPieces, Text.split_of_notMem hcolumn, Text.split_of_notMem hvalue, Piece.ofParts,
    Piece.ofChunks]

end Sql.Template

/-! ## The templates of built-in operators -/

namespace Operator

open Sql (Template)

/-- The templates of a test that may be negated. -/
def testTemplates (negated : Bool) : List Template :=
  [⟨"", " " ++ notWord negated ++ "ILIKE ", ""⟩,
   ⟨"LOWER(", ") " ++ notWord negated ++ "LIKE LOWER(", ")"⟩,
   ⟨"", " " ++ notWord negated ++ "LIKE ", ""⟩,
   ⟨"", " " ++ notWord negated ++ "LIKE BINARY ", ""⟩,
   ⟨"", " " ++ notWord negated ++ "GLOB ", ""⟩,
   ⟨"", " COLLATE Latin1_General_CS_AS " ++ notWord negated ++ "LIKE ", ""⟩]

/-- All templates of built-in operators. -/
def templates : List Template :=
  ⟨"", " = BINARY ", ""⟩ :: ⟨"", " COLLATE Latin1_General_CS_AS = ", ""⟩ ::
    (testTemplates false ++ testTemplates true)

/-- A condition in a template has one of the templates and one value. -/
def Templated : Condition → Prop
  | .raw _ template params => ∃ t ∈ templates, ∃ v, template = t.text ∧ params = [v]
  | _ => True

variable {inv : Invocation} {c : Condition} {column template : String}

/-- A text that is found among the templates is written with its one value. -/
theorem templated_raw (h : templates.any (fun t => template = t.text) = true) (v : Value) :
    Templated (.raw column template [v]) := by
  obtain ⟨t, ht, htext⟩ := List.any_eq_true.mp h
  exact ⟨t, ht, v, of_decide_eq_true htext, rfl⟩

/-- An exact comparison is a comparison or in one of the templates. -/
theorem templated_equalsExactly {v : Value} (h : equalsExactly inv v = .ok c) : Templated c := by
  unfold equalsExactly at h
  cases hd : inv.dialect with
  | other name => simp [hd] at h
  | postgres | sqlite =>
      simp only [hd, Except.ok.injEq] at h
      subst h
      exact trivial
  | mysql | mssql =>
      simp only [hd, Except.ok.injEq] at h
      subst h
      exact templated_raw (by decide) v

/-- So is a match without regard to case. -/
theorem templated_matchesLoosely (inv : Invocation) (pattern : String) (negated : Bool) :
    Templated (matchesLoosely inv pattern negated) := by
  unfold matchesLoosely
  cases inv.dialect with
  | mysql | sqlite | mssql => exact trivial
  | postgres | other =>
      refine templated_raw ?_ _
      cases negated <;> decide

/-- So is an exact match. -/
theorem templated_matchesExactly {pattern : String} {negated : Bool}
    (h : matchesExactly inv pattern negated = .ok c) : Templated c := by
  unfold matchesExactly at h
  cases hd : inv.dialect with
  | other name => simp [hd] at h
  | postgres | mysql | sqlite | mssql =>
      simp only [hd, Except.ok.injEq] at h
      subst h
      refine templated_raw ?_ _
      cases negated <;> decide

/-- A built-in operator makes conditions in one of the templates only. -/
theorem templated_build {op : Operator} (h : op.build inv = .ok c) : Templated c := by
  cases op with
  | equals | notEquals | lessThan | lessOrEqual | greaterThan | greaterOrEqual | isIn | notIn
  | null | notNull | between | notBetween =>
      obtain ⟨a, -, h⟩ := Invocation.fit_bind_eq_ok_iff.mp h
      cases h
      exact trivial
  | equalsCaseSensitive =>
      obtain ⟨v, -, h⟩ := Invocation.fit_bind_eq_ok_iff.mp h
      exact templated_equalsExactly h
  | like | contains | notContains | startsWith | endsWith =>
      obtain ⟨s, -, h⟩ := Invocation.fit_bind_eq_ok_iff.mp h
      cases h
      exact templated_matchesLoosely ..
  | likeCaseSensitive | containsCaseSensitive | notContainsCaseSensitive
  | startsWithCaseSensitive | endsWithCaseSensitive =>
      obtain ⟨s, -, h⟩ := Invocation.fit_bind_eq_ok_iff.mp h
      exact templated_matchesExactly h

end Operator

end Sift
