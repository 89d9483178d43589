import Sift.Proofs.Operator.Arguments
import Sift.Proofs.Scope.Conjunction
import Sift.Proofs.Sql.Test

/-!
# Sift.Proofs.Operator.Opposites

Operators that ask for the opposite of each other.  They take the same arguments in the same
dialects, and what they write are tests of which one is true of a row exactly where the other is
false; where one is unknown, so is the other.

Main statements:

* `opposite_matchesLoosely`, `opposed_matchesExactly` — patterns and negated patterns are
  opposite tests in every dialect;
* `opposed_of_opposite?` — so is all that operators and their opposites make.
-/

namespace Sift

open Sql (Piece Sign Token Test Row lex columnSigns notSigns)

/-! ## The test of a condition -/

namespace Condition

/-- The test that a scope writes that asks for a condition only. -/
def test? (frame : Frame) (c : Condition) : Option Test :=
  (Scope.whereSql ⟨frame, [.condition c]⟩).test?

/-- Conditions on the rows of a frame are written as tests of which each is the negation of the
other, for every row and every linear order of values. -/
def Opposite (frame : Frame) (c other : Condition) : Prop :=
  ∃ t u, c.test? frame = some t ∧ other.test? frame = some u ∧
    ∀ (α : Type) [LinearOrder α] (row : Row α), u.value row = (t.value row).not

variable {frame : Frame} {c other : Condition} {t : Test} {column : String}

/-- The test of a condition is read from the signs of what is written for it. -/
theorem test?_eq (h : Operator.Templated c) (frame : Frame) :
    c.test? frame = Test.read? (Piece.signsOf frame.dialect (c.pieces frame)) := by
  have hpieces : Scope.pieces ⟨frame, [.condition c]⟩ = c.pieces frame := List.append_nil _
  have hsigns := Sql.signs?_writeAll (regular_pieces h frame) frame.dialect
  rw [test?, Scope.whereSql_eq, hpieces, Sql.Fragment.test?, hsigns, Option.bind_some]

/-- Conditions that differ by a `NOT` in what is written for them are opposite. -/
theorem opposite_of_test? {f : Bool → Condition}
    (h : ∀ negated, (f negated).test? frame = some (t.negatedIf negated)) (negated : Bool) :
    Opposite frame (f negated) (f !negated) :=
  ⟨_, _, h negated, h !negated, fun _ _ row => t.value_negatedIf_not row negated⟩

/-! ## Columns -/

/-- A column ends with no `NOT`. -/
theorem endsWithNot_columnSigns (qualifier name : String) :
    Sql.endsWithNot (columnSigns qualifier name) = false := by
  have hmem : ∀ s ∈ columnSigns qualifier name, s.is "not" = false :=
    List.forall_mem_map.mpr <| Sql.forall_mem_columnTokens
      (Sql.is_nameTokens (by decide) qualifier) (by decide) (Sql.is_nameTokens (by decide) name)
  rw [Sql.endsWithNot, Option.any_eq_false]
  intro s hs
  simp [hmem s (List.mem_of_getLast? hs)]

/-- The signs of a column with a text behind it. -/
theorem signsOf_column {d : Dialect} {sql : String} {ts : List Token} (h : lex d sql = some ts)
    (rows : Sql.Rows) (qualifier name : String) (ps : List Piece) :
    Piece.signsOf d (.column rows qualifier name :: .text sql :: ps) =
      columnSigns qualifier name ++ (ts.map .token ++ Piece.signsOf d ps) := by
  simp [Piece.signs, Piece.tokens, columnSigns, h]

/-! ## Comparisons -/

/-- A test for null is read from its text. -/
theorem read?_nullTest (d : Dialect) (rows : Sql.Rows) (qualifier name : String)
    (negated : Bool) :
    Test.read? (Piece.signsOf d [.column rows qualifier name, .text (nullTest negated)]) =
      some ((Test.null (columnSigns qualifier name)).negatedIf negated) := by
  have hverb : Sign.verb? (.word "IS") = some .is := by decide
  have hright : ∀ r ∈ notSigns negated ++ [.word "NULL"], r.verb? = none := by
    cases negated <;> decide
  have hsigns : Piece.signsOf d [.column rows qualifier name, .text (nullTest negated)] =
      columnSigns qualifier name ++ .word "IS" :: (notSigns negated ++ [.word "NULL"]) := by
    rw [signsOf_column (lex_nullTest negated d)]
    cases negated <;> rfl
  rw [hsigns, Sql.read?_verb hverb hright (endsWithNot_columnSigns _ _)]
  cases negated <;> rfl

/-- A condition on null is a test for null of its column. -/
theorem test?_null (frame : Frame) (column : String) (negated : Bool) :
    (null column negated).test? frame =
      some ((Test.null (columnSigns frame.qualifier column)).negatedIf negated) :=
  (test?_eq (c := null column negated) trivial frame).trans (read?_nullTest ..)

/-- A value other than null is compared as it is. -/
theorem test?_compare {v : Value} (hv : v.isNull = false) (frame : Frame) (column : String)
    (op : Comparison) :
    (compare column op v).test? frame =
      some (.compare (columnSigns frame.qualifier column) op [.value v]) := by
  have hpieces : (compare column op v).pieces frame =
      [.column (.scope frame.depth) frame.qualifier column, .text (" " ++ op.sql ++ " "),
        .value v] := by
    cases v with
    | null => cases hv
    | _ => cases op <;> rfl
  have hverb : Sign.verb? (.operator op.sql) = some (.compare op) :=
    congrArg (Option.map _) (Comparison.ofSql?_sql op)
  have hvalue : ∀ r ∈ [Sign.value v], r.verb? = none := by simp
  have hread := Sql.read?_verb hverb hvalue (endsWithNot_columnSigns frame.qualifier column)
  rw [test?_eq (c := compare column op v) trivial, hpieces, signsOf_column (lex_comparison op _)]
  exact hread

/-- Comparisons that are opposite make opposite tests. -/
theorem opposite_compare {v : Value} (hv : v.isNull = false) (frame : Frame) (column : String)
    (op : Comparison) : Opposite frame (compare column op v) (compare column op.opposite v) :=
  ⟨_, _, test?_compare hv frame column op, test?_compare hv frame column op.opposite,
    fun _ _ row => Test.value_compare_opposite row op ..⟩

/-! ## Ranges -/

/-- A test that may be negated is read as that, or as its negation. -/
theorem read?_range {word : String} {ts : List Token} (h : (word, ts) ∈ ranges) {d : Dialect}
    {ps : List Piece} {s : Sign} {right : List Sign}
    (hsigns : ts.map .token ++ Piece.signsOf d ps = s :: right) {verb : Sql.Verb}
    (hs : s.verb? = some verb) (htakes : verb.takesNot = true)
    (hright : ∀ r ∈ right, r.verb? = none) {qualifier name : String}
    (ht : verb.test? (columnSigns qualifier name) right = some t) (rows : Sql.Rows)
    (negated : Bool) :
    Test.read? (Piece.signsOf d (.column rows qualifier name ::
        .text (" " ++ negation negated ++ word) :: ps)) = some (t.negatedIf negated) := by
  have hnegated : Piece.signsOf d (.column rows qualifier name ::
      .text (" " ++ negation negated ++ word) :: ps) =
        columnSigns qualifier name ++ (notSigns negated ++ s :: right) := by
    rw [signsOf_column (lex_range h negated d), List.map_append, List.append_assoc, hsigns]
    cases negated <;> rfl
  rw [hnegated]
  exact Sql.read?_range hs htakes hright (endsWithNot_columnSigns _ _) ht negated

/-- A condition on a pattern is a test for likeness. -/
theorem test?_like (frame : Frame) (column pattern : String) (negated : Bool) :
    (like column pattern negated).test? frame =
      some ((Test.alike "like" (columnSigns frame.qualifier column)
        [.value (.text pattern)]).negatedIf negated) := by
  have hlike : ("LIKE ", [.word "LIKE"]) ∈ ranges := by decide
  have hsigns : [.word "LIKE"] ++ Piece.signsOf frame.dialect [.value (.text pattern)] =
      .word "LIKE" :: [.value (.text pattern)] := rfl
  rw [test?_eq (c := like column pattern negated) trivial]
  exact read?_range hlike hsigns rfl rfl (by simp) rfl _ negated

/-- A condition on two bounds is a test for a range. -/
theorem test?_between (frame : Frame) (column : String) (low high : Value) (negated : Bool) :
    (between column low high negated).test? frame =
      some ((Test.between (columnSigns frame.qualifier column) [.value low]
        [.value high]).negatedIf negated) := by
  have hbetween : ("BETWEEN ", [.word "BETWEEN"]) ∈ ranges := by decide
  have hsigns : [.word "BETWEEN"] ++
      Piece.signsOf frame.dialect [.value low, .text " AND ", .value high] =
        .word "BETWEEN" :: [.value low, .word "AND", .value high] := rfl
  have hand : Sign.verb? (.word "AND") = none := by decide
  rw [test?_eq (c := between column low high negated) trivial]
  exact read?_range hbetween hsigns rfl rfl (by simp [hand]) rfl _ negated

/-- A condition on some values is a test for one of them. -/
theorem test?_among (frame : Frame) (column : String) {values : List Value} (h : values ≠ [])
    (negated : Bool) :
    (among column values negated).test? frame =
      some ((Test.among (columnSigns frame.qualifier column)
        (values.map fun v => [.value v])).negatedIf negated) := by
  have hin : ("IN (", [.word "IN", .mark '(']) ∈ ranges := by decide
  have hsigns : [.word "IN", .mark '('] ++ Piece.signsOf frame.dialect
      ((values.map .value).intersperse (.text ", ") ++ [.text ")"]) =
        .word "IN" :: .mark '(' ::
          (Piece.signsOf frame.dialect ((values.map .value).intersperse (.text ", ")) ++
            [.mark ')']) :=
    congrArg (_ ++ ·) (Piece.signsOf_append ..)
  rw [test?_eq (c := among column values negated) trivial]
  refine read?_range hin hsigns rfl rfl ?_ ?_ _ negated
  · rw [List.forall_mem_cons, List.forall_mem_append]
    exact ⟨rfl, Sql.verb?_values _ values, by simp⟩
  · exact congrArg (Option.map _) (Sql.choices?_values _ h)

end Condition

/-! ## Patterns -/

/-- The texts of a template that asks for a pattern, but for the `NOT` in front of its keyword. -/
structure Sql.PatternTest where
  before : String
  /-- What stands between the column and the keyword. -/
  middle : String
  keyword : String
  /-- What stands between the keyword and the value. -/
  inner : String
  after : String

namespace Sql.PatternTest

/-- The template, with or without the `NOT`. -/
def template (p : PatternTest) (negated : Bool) : Template :=
  ⟨p.before, p.middle ++ Operator.notWord negated ++ p.keyword ++ p.inner, p.after⟩

def tokens (d : Dialect) (text : String) : List Token := (lex d text).getD []

def signs (d : Dialect) (text : String) : List Sign := (tokens d text).map .token

/-- The test of a column and a value. -/
def test (p : PatternTest) (d : Dialect) (column : Expression) (v : Value) : Test :=
  .alike (Text.lowercase p.keyword) (signs d p.before ++ (column ++ signs d p.middle))
    (signs d p.inner ++ .value v :: signs d p.after)

/-- The keyword is the last verb in both templates, and in one of them only a `NOT` stands in front
of it. -/
structure Readable (p : PatternTest) (d : Dialect) : Prop where
  before : lex d p.before = some (tokens d p.before)
  middle : ∀ negated, lex d (p.template negated).middle = some (tokens d p.middle ++
    ((if negated then [.word "NOT"] else []) ++ .word p.keyword :: tokens d p.inner))
  after : lex d p.after = some (tokens d p.after)
  verb : Sign.verb? (.word p.keyword) = some (.alike (Text.lowercase p.keyword))
  last : (signs d p.inner ++ signs d p.after).all (·.verb?.isNone) = true
  before_not : endsWithNot (signs d p.before) = false
  middle_not : endsWithNot (signs d p.middle) = false

end Sql.PatternTest

namespace Operator

/-- The tests for patterns that built-in operators write. -/
def patternTests : List Sql.PatternTest :=
  [⟨"", " ", "ILIKE", " ", ""⟩,
   ⟨"LOWER(", ") ", "LIKE", " LOWER(", ")"⟩,
   ⟨"", " ", "LIKE", " ", ""⟩,
   ⟨"", " ", "LIKE", " BINARY ", ""⟩,
   ⟨"", " ", "GLOB", " ", ""⟩,
   ⟨"", " COLLATE Latin1_General_CS_AS ", "LIKE", " ", ""⟩]

/-- The template of every pattern test is one of the templates. -/
theorem template_mem_templates {p : Sql.PatternTest} (h : p ∈ patternTests) (negated : Bool) :
    p.template negated ∈ templates := by
  have hmap (negated : Bool) : testTemplates negated = patternTests.map (·.template negated) := by
    cases negated <;> rfl
  have hmem : p.template negated ∈ testTemplates negated :=
    hmap negated ▸ List.mem_map_of_mem h
  cases negated <;> simp [templates, hmem]

/-- Every pattern test is read from its text. -/
theorem readable_of_mem_patternTests {p : Sql.PatternTest} (h : p ∈ patternTests) (d : Dialect) :
    p.Readable d := by
  have hall : ∀ p ∈ patternTests, p.Readable d := by
    simp only [patternTests, List.forall_mem_cons]
    refine ⟨?_, ?_, ?_, ?_, ?_, ?_, fun _ h => nomatch h⟩ <;> cases d <;>
      exact ⟨rfl, fun negated => by cases negated <;> rfl, rfl, by decide, rfl, rfl, rfl⟩
  exact hall p h

end Operator

/-- A test for a pattern is read from its template, or its negation. -/
theorem Condition.test?_pattern {p : Sql.PatternTest} (h : p ∈ Operator.patternTests)
    (frame : Frame) (column : String) (v : Value) (negated : Bool) :
    (raw column (p.template negated).text [v]).test? frame =
      some ((p.test frame.dialect (columnSigns frame.qualifier column) v).negatedIf negated) := by
  have hmem := Operator.template_mem_templates h negated
  have hread := Operator.readable_of_mem_patternTests h frame.dialect
  have hmarked := (Bool.and_eq_true_iff.mp (List.all_eq_true.mp spaced_templates _ hmem)).1
  have hpieces : (raw column (p.template negated).text [v]).pieces frame =
      [.text p.before, .column (.scope frame.depth) frame.qualifier column,
        .text (p.template negated).middle, .value v, .text p.after] :=
    Sql.Template.ofParts_text hmarked ..
  have hsigns :
      Piece.signsOf frame.dialect ((raw column (p.template negated).text [v]).pieces frame) =
        Sql.PatternTest.signs frame.dialect p.before ++
          (columnSigns frame.qualifier column ++ Sql.PatternTest.signs frame.dialect p.middle) ++
          (notSigns negated ++ .word p.keyword :: (Sql.PatternTest.signs frame.dialect p.inner ++
            .value v :: Sql.PatternTest.signs frame.dialect p.after)) := by
    rw [hpieces]
    cases negated <;>
      simp [Piece.signs, Piece.tokens, hread.before, hread.middle, hread.after, columnSigns,
        notSigns, Sql.PatternTest.signs]
  rw [test?_eq (c := raw column (p.template negated).text [v]) ⟨_, hmem, v, rfl, rfl⟩, hsigns]
  refine Sql.read?_range hread.verb rfl ?_ ?_ rfl negated
  · have hlast := hread.last
    simp only [List.all_append, Bool.and_eq_true, List.all_eq_true, Option.isNone_iff_eq_none]
      at hlast
    rw [List.forall_mem_append, List.forall_mem_cons]
    exact ⟨hlast.1, rfl, hlast.2⟩
  · exact Sql.endsWithNot_append hread.before_not
      (Sql.endsWithNot_append (endsWithNot_columnSigns _ _) hread.middle_not)

/-- Patterns with and without a `NOT` are opposite. -/
theorem Condition.opposite_pattern {p : Sql.PatternTest} (h : p ∈ Operator.patternTests)
    (frame : Frame) (column : String) (v : Value) :
    Opposite frame (raw column (p.template false).text [v])
      (raw column (p.template true).text [v]) :=
  opposite_of_test? (test?_pattern h frame column v) false

/-! ## Operators -/

namespace Operator

/-- A pattern that takes large and small letters for the same is negated in every dialect. -/
theorem opposite_matchesLoosely (inv : Invocation) (pattern : String) (frame : Frame) :
    (matchesLoosely inv pattern false).Opposite frame (matchesLoosely inv pattern true) := by
  unfold matchesLoosely
  cases inv.dialect with
  | postgres => exact Condition.opposite_pattern (.head _) frame ..
  | mysql | sqlite | mssql =>
      exact Condition.opposite_of_test? (Condition.test?_like frame inv.column pattern) false
  | other name => exact Condition.opposite_pattern (.tail _ (.head _)) frame ..

/-- The operator that asks for the opposite. -/
def opposite? : Operator → Option Operator
  | equals => some notEquals
  | isIn => some notIn
  | null => some notNull
  | between => some notBetween
  | contains => some notContains
  | containsCaseSensitive => some notContainsCaseSensitive
  | lessThan => some greaterOrEqual
  | lessOrEqual => some greaterThan
  | _ => none

end Operator

/-- What two strategies make of a column and of arguments in a dialect, each called by any
symbol. -/
inductive Strategy.Opposed (s t : Strategy) (column : String) (vs : List Value) (d : Dialect) : Prop
  /-- Both refuse the arguments, for the same reason. -/
  | refused {fault : ArgumentFault}
      (hs : ∀ symbol, s ⟨symbol, column, vs, d⟩ = .error (.invalidArguments symbol fault))
      (ht : ∀ symbol, t ⟨symbol, column, vs, d⟩ = .error (.invalidArguments symbol fault))
  /-- Neither can be written in the dialect. -/
  | unwritten
      (hs : ∀ symbol, s ⟨symbol, column, vs, d⟩ = .error (.unsupportedDialect d.name symbol))
      (ht : ∀ symbol, t ⟨symbol, column, vs, d⟩ = .error (.unsupportedDialect d.name symbol))
  /-- Both make a condition, and what is written for the two is opposite. -/
  | accepted {c c' : Condition} (h : ∀ frame, c.Opposite frame c')
      (hs : ∀ symbol, s ⟨symbol, column, vs, d⟩ = .ok c)
      (ht : ∀ symbol, t ⟨symbol, column, vs, d⟩ = .ok c')

/-- Strategies that check their arguments in the same way are opposed if they are so on arguments
that pass. -/
theorem Strategy.opposed_fit {α : Type} {check : List Value → Except ArgumentFault α}
    {make makeOther : Invocation → α → Except Fault Condition} {column : String}
    {vs : List Value} {d : Dialect}
    (h : ∀ a, check vs = .ok a → Opposed (make · a) (makeOther · a) column vs d) :
    Opposed (fun inv => inv.fit check >>= make inv) (fun inv => inv.fit check >>= makeOther inv)
      column vs d := by
  cases hcheck : check vs with
  | error fault =>
      exact .refused (fun _ => Invocation.fit_bind_of_error hcheck _)
        fun _ => Invocation.fit_bind_of_error hcheck _
  | ok a =>
      have hfit (f : Invocation → α → Except Fault Condition) (symbol : String) :
          (Invocation.fit ⟨symbol, column, vs, d⟩ check >>= f ⟨symbol, column, vs, d⟩) =
            f ⟨symbol, column, vs, d⟩ a :=
        Invocation.fit_bind_of_ok hcheck _
      cases h a hcheck with
      | refused hs ht =>
          exact .refused (fun _ => (hfit make _).trans (hs _))
            fun _ => (hfit makeOther _).trans (ht _)
      | unwritten hs ht =>
          exact .unwritten (fun _ => (hfit make _).trans (hs _))
            fun _ => (hfit makeOther _).trans (ht _)
      | accepted h hs ht =>
          exact .accepted h (fun _ => (hfit make _).trans (hs _))
            fun _ => (hfit makeOther _).trans (ht _)

namespace Operator

open Condition (opposite_of_test? opposite_compare opposite_pattern)
open Strategy (Opposed opposed_fit)

/-- Patterns that tell large letters from small ones are negated where they can be written. -/
theorem opposed_matchesExactly (pattern column : String) (vs : List Value) (d : Dialect) :
    Opposed (matchesExactly · pattern false) (matchesExactly · pattern true) column vs d := by
  have hlike : ⟨"", " ", "LIKE", " ", ""⟩ ∈ patternTests := by simp [patternTests]
  have hbinary : ⟨"", " ", "LIKE", " BINARY ", ""⟩ ∈ patternTests := by simp [patternTests]
  have hglob : ⟨"", " ", "GLOB", " ", ""⟩ ∈ patternTests := by simp [patternTests]
  have hcollate : ⟨"", " COLLATE Latin1_General_CS_AS ", "LIKE", " ", ""⟩ ∈ patternTests := by
    simp [patternTests]
  cases d with
  | postgres => exact .accepted (opposite_pattern hlike · column _) (fun _ => rfl) fun _ => rfl
  | mysql => exact .accepted (opposite_pattern hbinary · column _) (fun _ => rfl) fun _ => rfl
  | sqlite => exact .accepted (opposite_pattern hglob · column _) (fun _ => rfl) fun _ => rfl
  | mssql => exact .accepted (opposite_pattern hcollate · column _) (fun _ => rfl) fun _ => rfl
  | other name => exact .unwritten (fun _ => rfl) fun _ => rfl

/-- An operator and the one that asks for the opposite are opposed. -/
theorem opposed_of_opposite? {op other : Operator} (h : op.opposite? = some other)
    (column : String) (vs : List Value) (d : Dialect) :
    Opposed op.build other.build column vs d := by
  cases op with
  | equals =>
      cases h
      refine opposed_fit fun v _ => ?_
      have hopposite (frame : Frame) :
          (Condition.compare column .eq v).Opposite frame (.compare column .ne v) := by
        cases v with
        | null => exact opposite_of_test? (Condition.test?_null frame column) false
        | _ => exact opposite_compare rfl frame column .eq
      exact .accepted hopposite (fun _ => rfl) fun _ => rfl
  | lessThan | lessOrEqual =>
      cases h
      refine opposed_fit fun v hv => ?_
      have hnull := Value.isNull_of_present (Arguments.ordered_eq_ok_iff.mp hv).2
      exact .accepted (opposite_compare hnull · column _) (fun _ => rfl) fun _ => rfl
  | isIn =>
      cases h
      refine opposed_fit fun values hvalues => ?_
      obtain ⟨rfl, hne, -⟩ := Arguments.choice_eq_ok_iff.mp hvalues
      have hopposite (frame : Frame) :=
        opposite_of_test? (Condition.test?_among frame column hne) false
      exact .accepted hopposite (fun _ => rfl) fun _ => rfl
  | null =>
      cases h
      refine opposed_fit fun flag _ => ?_
      have hopposite (frame : Frame) := opposite_of_test? (Condition.test?_null frame column) !flag
      simp only [Bool.not_not] at hopposite
      exact .accepted hopposite (fun _ => rfl) fun _ => rfl
  | between =>
      cases h
      refine opposed_fit fun (low, high) _ => ?_
      have hopposite (frame : Frame) :=
        opposite_of_test? (Condition.test?_between frame column low high) false
      exact .accepted hopposite (fun _ => rfl) fun _ => rfl
  | contains =>
      cases h
      refine opposed_fit fun text _ => ?_
      have hopposite := opposite_matchesLoosely ⟨"", column, vs, d⟩ ("%" ++ text ++ "%")
      exact .accepted hopposite (fun _ => rfl) fun _ => rfl
  | containsCaseSensitive =>
      cases h
      exact opposed_fit fun text _ => opposed_matchesExactly ("%" ++ text ++ "%") column vs d
  | _ => cases h

/-- On SQLite, operators that look for a text with a wildcard in it both make a condition. -/
theorem exists_opposite_containsCaseSensitive :
    containsCaseSensitive.opposite? = some notContainsCaseSensitive ∧ ∃ c c',
      containsCaseSensitive.build ⟨"$containsc", "name", [.text "50%"], .sqlite⟩ = .ok c ∧
      notContainsCaseSensitive.build ⟨"$notContainsc", "name", [.text "50%"], .sqlite⟩ = .ok c' ∧
      ∀ frame, c.Opposite frame c' := by
  have hopposite : containsCaseSensitive.opposite? = some notContainsCaseSensitive := rfl
  refine ⟨hopposite, ?_⟩
  cases opposed_of_opposite? hopposite "name" [.text "50%"] .sqlite with
  | refused hs | unwritten hs => cases hs "$containsc"
  | accepted h hs ht => exact ⟨_, _, hs _, ht _, h⟩

end Operator

end Sift
