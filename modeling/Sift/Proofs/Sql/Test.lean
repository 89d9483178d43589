import Mathlib.Order.Lattice
import Sift.Proofs.Scope.Signs
import Sift.Proofs.Sql.Formula

/-!
# Sift.Proofs.Sql.Test

Tests of a row, and what an engine makes of them.  A test is read by its last verb: an operator
that compares, `IS`, `IN`, `BETWEEN` or a word that asks for a pattern.  In front of the last
four kinds of words a `NOT` may stand, and it negates what the test is without it.

A test of null is unknown, as long as it does not ask for null itself.

Main statements:

* `read?_range` — a test and the same test with a `NOT` are read as each other's negation;
* `value_compare_opposite` — so are, of values in a linear order, tests by opposite comparisons.
-/

namespace Sift

/-! ## Comparisons -/

namespace Comparison

/-- The comparison that is true exactly where this one is false. -/
def opposite : Comparison → Comparison
  | .eq => .ne
  | .ne => .eq
  | .lt => .ge
  | .le => .gt
  | .gt => .le
  | .ge => .lt

/-- Whether values compare as is asked for. -/
def holds {α : Type} [LinearOrder α] (op : Comparison) (a b : α) : Bool :=
  match op with
  | .eq => a = b
  | .ne => a ≠ b
  | .lt => a < b
  | .le => a ≤ b
  | .gt => b < a
  | .ge => b ≤ a

theorem holds_opposite {α : Type} [LinearOrder α] (op : Comparison) (a b : α) :
    op.opposite.holds a b = !op.holds a b := by
  rw [Bool.eq_iff_iff]
  cases op <;> simp [opposite, holds]

end Comparison

namespace Sql

/-! ## Tests -/

/-- What stands on either side of a verb. -/
abbrev Expression := List Sign

/-- A test of a row. -/
inductive Test where
  | compare (left : Expression) (op : Comparison) (right : Expression)
  | null (e : Expression)
  | among (e : Expression) (choices : List Expression)
  | between (e low high : Expression)
  /-- A text matches a pattern, in the way that a keyword asks for. -/
  | alike (keyword : String) (e pattern : Expression)
  | negation (t : Test)

/-- A row, as an engine sees it. -/
structure Row (α : Type) where
  /-- What an expression is in the row, if it is not null. -/
  value : Expression → Option α
  /-- Whether texts that are not null match, in the way that a keyword asks for. -/
  alike : String → Expression → Expression → Bool

namespace Truth

/-- A test of two expressions, which is unknown if one of them is null. -/
def ofValues {α : Type} (test : α → α → Bool) : Option α → Option α → Truth
  | some a, some b => ofBool (test a b)
  | _, _ => unknown

theorem not_not (τ : Truth) : τ.not.not = τ := by cases τ <;> rfl

theorem not_ofBool (b : Bool) : (ofBool b).not = ofBool !b := by cases b <;> rfl

end Truth

namespace Test

variable {α : Type} [LinearOrder α]

/-- What a test is of a row. -/
def value (row : Row α) : Test → Truth
  | compare left op right => .ofValues op.holds (row.value left) (row.value right)
  | null e => .ofBool (row.value e).isNone
  | among e choices =>
    choices.foldr
      (fun choice τ => (Truth.ofValues Comparison.eq.holds (row.value e) (row.value choice)).or τ)
      .false
  | between e low high =>
    (Truth.ofValues Comparison.ge.holds (row.value e) (row.value low)).and
      (.ofValues Comparison.le.holds (row.value e) (row.value high))
  | alike keyword e pattern =>
    .ofValues (fun _ _ => row.alike keyword e pattern) (row.value e) (row.value pattern)
  | negation t => (t.value row).not

/-- A test, or its negation. -/
def negatedIf (negated : Bool) (t : Test) : Test := if negated then negation t else t

theorem value_negatedIf_not (row : Row α) (t : Test) (negated : Bool) :
    (t.negatedIf !negated).value row = ((t.negatedIf negated).value row).not := by
  cases negated with
  | false => rfl
  | true => exact (Truth.not_not (t.value row)).symm

/-- Opposite comparisons make opposite tests. -/
theorem value_compare_opposite (row : Row α) (op : Comparison) (left right : Expression) :
    (compare left op.opposite right).value row = ((compare left op right).value row).not := by
  rw [value, value]
  cases row.value left with
  | none => rfl
  | some a =>
      cases row.value right with
      | none => rfl
      | some b =>
          rw [Truth.ofValues, Truth.ofValues, Truth.not_ofBool, op.holds_opposite]

end Test

/-! ## Verbs -/

/-- What a test does with the expressions on either side. -/
inductive Verb where
  | compare (op : Comparison)
  | is
  | among
  | between
  | alike (keyword : String)
deriving DecidableEq

/-- The words that are verbs, in small letters. -/
def verbs : List (String × Verb) :=
  [("is", .is), ("in", .among), ("between", .between), ("like", .alike "like"),
   ("ilike", .alike "ilike"), ("glob", .alike "glob")]

namespace Sign

def verb? : Sign → Option Verb
  | operator text => (Comparison.ofSql? text).map .compare
  | word text => verbs.lookup (Text.lowercase text)
  | _ => none

@[simp] theorem verb?_value (v : Value) : verb? (.value v) = none := rfl

@[simp] theorem verb?_mark (c : Char) : verb? (.mark c) = none := rfl

def is (keyword : String) : Sign → Bool
  | token t => t.is keyword
  | value _ => false

end Sign

/-- The last verb of signs, with what stands in front of it and behind it. -/
def lastVerb? : List Sign → Option (Expression × Verb × Expression)
  | [] => none
  | s :: ss =>
    match lastVerb? ss with
    | some (left, verb, right) => some (s :: left, verb, right)
    | none => s.verb?.map fun verb => ([], verb, ss)

theorem lastVerb?_eq_none {ss : List Sign} (h : ∀ s ∈ ss, s.verb? = none) :
    lastVerb? ss = none := by
  induction ss with
  | nil => rfl
  | cons s ss ih =>
      rw [List.forall_mem_cons] at h
      rw [lastVerb?, ih h.2, h.1]
      rfl

/-- A verb is the last if there is none behind it. -/
theorem lastVerb?_append {s : Sign} {verb : Verb} (hs : s.verb? = some verb)
    {right : List Sign} (hright : ∀ r ∈ right, r.verb? = none) (left : List Sign) :
    lastVerb? (left ++ s :: right) = some (left, verb, right) := by
  induction left with
  | nil => rw [List.nil_append, lastVerb?, lastVerb?_eq_none hright, hs]; rfl
  | cons l left ih => rw [List.cons_append, lastVerb?, ih]

/-! ## Reading tests -/

/-- The choices up to the closing parenthesis. -/
def choices? : List Sign → Option (List Expression)
  | [s, .mark ')'] => some [[s]]
  | s :: .mark ',' :: rest => (choices? rest).map ([s] :: ·)
  | _ => none

/-- Values with commas between any two have no verb among them. -/
theorem verb?_values (d : Dialect) (vs : List Value) :
    ∀ s ∈ Piece.signsOf d ((vs.map .value).intersperse (.text ", ")), s.verb? = none := by
  induction vs with
  | nil => exact fun _ h => nomatch h
  | cons v vs ih =>
      cases vs with
      | nil => simp [Piece.signs]
      | cons w vs =>
          rw [Piece.signsOf_values, List.forall_mem_cons, List.forall_mem_cons]
          exact ⟨rfl, rfl, ih⟩

/-- They are read as choices. -/
theorem choices?_values (d : Dialect) {vs : List Value} (h : vs ≠ []) :
    choices? (Piece.signsOf d ((vs.map .value).intersperse (.text ", ")) ++ [.mark ')']) =
      some (vs.map fun v => [.value v]) := by
  induction vs with
  | nil => exact absurd rfl h
  | cons v vs ih =>
      cases vs with
      | nil => rfl
      | cons w vs =>
          rw [Piece.signsOf_values, List.cons_append, List.cons_append, choices?,
            ih (List.cons_ne_nil w vs)]
          rfl

/-- The test that a verb makes of the expressions on either side. -/
def Verb.test? (left : Expression) : Verb → Expression → Option Test
  | compare op, right => some (.compare left op right)
  | is, [s] => if s.is "null" then some (.null left) else none
  | is, [s, s'] => if s.is "not" && s'.is "null" then some (.negation (.null left)) else none
  | among, .mark '(' :: right => (choices? right).map (.among left)
  | between, [low, s, high] => if s.is "and" then some (.between left [low] [high]) else none
  | alike keyword, right => some (.alike keyword left right)
  | _, _ => none

/-- Whether a `NOT` may stand in front of a verb. -/
def Verb.takesNot : Verb → Bool
  | among | between | alike _ => true
  | compare _ | is => false

def endsWithNot (ss : List Sign) : Bool := ss.getLast?.any (·.is "not")

/-- What ends with no `NOT` does so behind anything that ends with none. -/
theorem endsWithNot_append {ss us : List Sign} (hs : endsWithNot ss = false)
    (hu : endsWithNot us = false) : endsWithNot (ss ++ us) = false := by
  rw [endsWithNot, List.getLast?_append]
  cases hlast : us.getLast? with
  | none => exact hs
  | some s =>
      rw [endsWithNot, hlast] at hu
      exact hu

/-- The test that signs are. -/
def Test.read? (ss : List Sign) : Option Test :=
  match lastVerb? ss with
  | none => none
  | some (left, verb, right) =>
    if verb.takesNot && endsWithNot left then (verb.test? left.dropLast right).map .negation
    else verb.test? left right

def notSigns (negated : Bool) : List Sign := if negated then [.word "NOT"] else []

section Read

variable {left right : List Sign} {s : Sign} {verb : Verb} {t : Test}

/-- A test whose verb has no `NOT` in front of it. -/
theorem read?_verb (hs : s.verb? = some verb) (hright : ∀ r ∈ right, r.verb? = none)
    (hleft : endsWithNot left = false) :
    Test.read? (left ++ s :: right) = verb.test? left right := by
  rw [Test.read?, lastVerb?_append hs hright]
  simp [hleft]

/-- A `NOT` in front of a verb negates what the test is without it. -/
theorem read?_range (hs : s.verb? = some verb) (htakes : verb.takesNot = true)
    (hright : ∀ r ∈ right, r.verb? = none) (hleft : endsWithNot left = false)
    (ht : verb.test? left right = some t) (negated : Bool) :
    Test.read? (left ++ (notSigns negated ++ s :: right)) = some (t.negatedIf negated) := by
  cases negated with
  | false => exact (read?_verb hs hright hleft).trans ht
  | true =>
      have hnot : endsWithNot (left ++ [.word "NOT"]) = true := by
        rw [endsWithNot, List.getLast?_concat]
        decide
      rw [← List.append_assoc, Test.read?, lastVerb?_append hs hright]
      simp [notSigns, htakes, hnot, ht, Test.negatedIf]

end Read

/-! ## Statements -/

/-- The signs of a statement whose placeholders are numbered from the left. -/
def Fragment.signs? (f : Fragment) : Option (List Sign) := do
  let ts ← lex f.dialect f.text
  if placeholders ts = (List.range f.params.length).map fun i => f.dialect.placeholder (i + 1) then
    some (fill ts f.params)
  else none

/-- The test that a statement is. -/
def Fragment.test? (f : Fragment) : Option Test := f.signs?.bind Test.read?

/-- The signs of a statement in regular pieces. -/
theorem signs?_writeAll {ps : List Piece} {vs : List Value} (h : Piece.Regular true ps vs)
    (d : Dialect) : (Piece.writeAll ps (.empty d)).signs? = some (Piece.signsOf d ps) := by
  have hdialect : (Piece.writeAll ps (.empty d)).dialect = d := Piece.dialect_writeAll ps _
  have htext : (Piece.writeAll ps (.empty d)).text = Piece.textOf d 0 ps := by
    rw [Piece.text_writeAll]
    exact String.empty_append
  have hparams : (Piece.writeAll ps (.empty d)).params = Piece.boundBy ps := by
    rw [Piece.params_writeAll]
    exact List.nil_append _
  have hplaceholders := Piece.placeholders_tokensOf (h.settled d) 0
  rw [← List.range_eq_range'] at hplaceholders
  rw [Fragment.signs?, hdialect, htext, hparams, h.lex_textOf d 0]
  simp [hplaceholders, Piece.fill_tokensOf (h.settled d)]

end Sql

end Sift
