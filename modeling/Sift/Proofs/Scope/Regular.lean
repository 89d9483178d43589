import Sift.Proofs.Operator.Template

/-!
# Sift.Proofs.Scope.Regular

What is written for conditions and joins, seen by itself.  All of it can be read piece by
piece, because breaks keep the pieces apart, and only the values in place of which they
stand make placeholders.

Templates are taken to be those of built-in operators; any other may hold anything.

Main statements:

* `Condition.regular_pieces` — what is written for a condition is regular, and binds its
  values;
* `Join.regular_pieces` — what is written for a join is regular, and binds nothing.
-/

namespace Sift

open Sql (Piece Token isPlain)
open Operator (Templated)

/-! ## The values of a condition -/

/-- The values that a condition binds, from the left.  Equality with null is a test for
null. -/
def Condition.bound : Condition → List Value
  | .compare _ .eq .null => []
  | .compare _ .ne .null => []
  | .compare _ _ value => [value]
  | .among _ values _ => values
  | .null _ _ => []
  | .between _ low high _ => [low, high]
  | .like _ pattern _ => [.text pattern]
  | .raw _ _ params => params

/-! ## Regular pieces -/

/-- Pieces that are kept apart, in which nothing but the values in place of which they
stand makes a placeholder. -/
structure Sql.Piece.Regular (free : Bool) (ps : List Piece) (vs : List Value) : Prop where
  settled : ∀ d, ∀ p ∈ ps, p.Settled d
  spaced : Piece.spaced free ps = true
  bound : Piece.boundBy ps = vs

namespace Sql.Piece.Regular

variable {free : Bool} {ps qs : List Piece} {vs ws : List Value} {sql : String}

theorem nil : Regular free [] [] where
  settled := fun _ _ hp => nomatch hp
  spaced := rfl
  bound := rfl

/-- A settled piece in front of regular ones makes regular pieces, if it may begin there. -/
theorem cons {p : Piece} (hp : ∀ d, p.Settled d) (hempty : p.isEmpty = false)
    (hfree : (free || p.startsFree) = true) (h : Regular p.endsFree ps vs) :
    Regular free (p :: ps) (p.bound ++ vs) where
  settled d := List.forall_mem_cons.mpr ⟨hp d, h.settled d⟩
  spaced := by
    rw [Piece.spaced, hempty, hfree, h.spaced]
    rfl
  bound := by rw [boundBy_cons, h.bound]

/-- Regular pieces may follow regular pieces. -/
theorem append (hps : Regular free ps vs) (hqs : Regular false qs ws) :
    Regular free (ps ++ qs) (vs ++ ws) where
  settled d p hp := (List.mem_append.mp hp).elim (hps.settled d p) (hqs.settled d p)
  spaced := spaced_append hps.spaced hqs.spaced
  bound := by rw [boundBy_append, hps.bound, hqs.bound]

/-! ### Pieces behind a break -/

/-- A column may begin wherever something is free. -/
theorem column (rows : Rows) (qualifier name : String) (h : Regular false ps vs) :
    Regular true (.column rows qualifier name :: ps) vs :=
  cons (fun _ => trivial) rfl rfl h

/-- So may a placeholder. -/
theorem value (v : Value) (h : Regular false ps vs) :
    Regular true (.value v :: ps) (v :: vs) :=
  cons (fun _ => trivial) rfl rfl h

/-- A text in front of which nothing needs a break, because it has one itself. -/
theorem text (hplain : ∀ d, isPlain d sql = true) (hstart : Sql.startsFree sql = true)
    (h : Regular (Sql.endsFree sql) ps vs) : Regular free (.text sql :: ps) vs := by
  refine cons hplain ?_ ?_ h
  · cases hempty : Piece.isEmpty (.text sql) with
    | false => rfl
    | true =>
        rw [of_decide_eq_true hempty] at hstart
        cases hstart
  · rw [Bool.or_eq_true]
    exact .inr hstart

/-- Regular pieces are read one by one. -/
theorem lex_textOf (h : Regular true ps vs) (d : Dialect) (n : Nat) :
    Sql.lex d (textOf d n ps) = some (tokensOf d n ps) :=
  Piece.lex_textOf (fun p hp => (h.settled d p hp).readable) h.spaced n

end Sql.Piece.Regular

/-! ## Texts of conditions and joins -/

/-- The texts that stand between values and between conditions, whatever these are. -/
def joints : List String :=
  [", ", ")", " AND ", " INNER JOIN ", " ON ", " = ", " WHERE ", "TRUE"]

/-- What is written between pieces is plain. -/
theorem isPlain_of_mem_joints {sql : String} (h : sql ∈ joints) (d : Dialect) :
    isPlain d sql = true := by
  have hall : joints.all (isPlain d) = true := by cases d <;> rfl
  exact List.all_eq_true.mp hall sql h

theorem isPlain_comparison (op : Comparison) (d : Dialect) :
    isPlain d (" " ++ op.sql ++ " ") = true := by
  cases op <;> cases d <;> rfl

/-- A comparison is one token. -/
theorem lex_comparison (op : Comparison) (d : Dialect) :
    Sql.lex d (" " ++ op.sql ++ " ") = some [.operator op.sql] := by
  cases op <;> cases d <;> rfl

theorem isPlain_nullTest (negated : Bool) (d : Dialect) : isPlain d (nullTest negated) = true := by
  cases negated <;> cases d <;> rfl

/-- A test for null is two words, or three. -/
theorem lex_nullTest (negated : Bool) (d : Dialect) :
    Sql.lex d (nullTest negated) =
      some (.word "IS" :: (if negated then [.word "NOT"] else []) ++ [.word "NULL"]) := by
  cases negated <;> cases d <;> rfl

/-- The tests that may be negated, with their tokens. -/
def ranges : List (String × List Token) :=
  [("IN (", [.word "IN", .mark '(']), ("BETWEEN ", [.word "BETWEEN"]), ("LIKE ", [.word "LIKE"])]

section Ranges

variable {word : String} {ts : List Token} (h : (word, ts) ∈ ranges) (negated : Bool) (d : Dialect)

include h

/-- A test that may be negated is read as its tokens, behind the word of a negation. -/
theorem lex_range :
    Sql.lex d (" " ++ negation negated ++ word) =
      some ((if negated then [.word "NOT"] else []) ++ ts) := by
  have hall : ∀ r ∈ ranges, Sql.lex d (" " ++ negation negated ++ r.1) =
      some ((if negated then [.word "NOT"] else []) ++ r.2) := by
    refine List.forall_mem_cons.mpr ⟨?_, List.forall_mem_cons.mpr ⟨?_,
      List.forall_mem_singleton.mpr ?_⟩⟩ <;> cases negated <;> cases d <;> rfl
  exact hall (word, ts) h

theorem isPlain_range : isPlain d (" " ++ negation negated ++ word) = true := by
  have hall : ranges.all (fun r => r.2.all fun t => t.placeholder?.isNone && !t.isLiteral) = true :=
    rfl
  have hts := List.all_eq_true.mp hall _ h
  rw [isPlain, lex_range h, Option.any_some, List.all_append, hts, Bool.and_true]
  cases negated <;> rfl

end Ranges

/-- The texts of the templates of built-in operators are plain. -/
theorem isPlain_templates (d : Dialect) :
    Operator.templates.all
      (fun t => isPlain d t.before && isPlain d t.middle && isPlain d t.after) = true := by
  cases d <;> rfl

/-- In the templates of built-in operators breaks stand around the column and the value. -/
theorem spaced_templates :
    Operator.templates.all (fun t => t.isMarkedOnce && Piece.spaced true
      [.text t.before, .column (.scope 0) "" "", .text t.middle, .value .null, .text t.after]) =
      true := by
  rfl

/-! ## Conditions -/

namespace Condition

/-- A template with its one value is regular. -/
theorem regular_templated {t : Sql.Template} (h : t ∈ Operator.templates) (rows : Sql.Rows)
    (qualifier name : String) (v : Value) :
    Piece.Regular true (Piece.ofParts rows qualifier name (Sql.columnPieces t.text) [v]) [v] := by
  have hspaced := List.all_eq_true.mp spaced_templates t h
  rw [Bool.and_eq_true] at hspaced
  rw [Sql.Template.ofParts_text hspaced.1]
  refine ⟨fun d => ?_, hspaced.2, rfl⟩
  have hplain := List.all_eq_true.mp (isPlain_templates d) t h
  simp only [Bool.and_eq_true] at hplain
  simp [Piece.Settled, hplain]

/-- Values with commas between them are regular. -/
theorem regular_values (values : List Value) :
    Piece.Regular true ((values.map .value).intersperse (.text ", ")) values := by
  induction values with
  | nil => exact .nil
  | cons v vs ih =>
      cases vs with
      | nil => exact .value v .nil
      | cons w vs =>
          exact .value v (.text (isPlain_of_mem_joints (by decide)) rfl ih)

/-- What is written for a condition is regular, and binds its values. -/
theorem regular_pieces {c : Condition} (h : Templated c) (frame : Frame) :
    Piece.Regular true (c.pieces frame) c.bound := by
  fun_cases Condition.pieces frame c with
  | case1 column name => exact .column _ _ _ (.text (isPlain_nullTest false) rfl .nil)
  | case2 column name => exact .column _ _ _ (.text (isPlain_nullTest true) rfl .nil)
  | case3 column name op value heq hne =>
      have hbound : (compare name op value).bound = [value] := by
        cases op <;> cases value <;> simp_all [bound]
      rw [hbound]
      refine .column _ _ _ (.text (isPlain_comparison op) ?_ ?_)
      · cases op <;> rfl
      · have hends : Sql.endsFree (" " ++ op.sql ++ " ") = true := by cases op <;> rfl
        rw [hends]
        exact .value value .nil
  | case4 column name values negated =>
      have hclosing : Piece.Regular false [.text ")"] [] :=
        .text (isPlain_of_mem_joints (by decide)) rfl .nil
      have hvalues := (regular_values values).append hclosing
      rw [List.append_nil] at hvalues
      have hin : ("IN (", [.word "IN", .mark '(']) ∈ ranges := by decide
      refine .column _ _ _ (.text (isPlain_range hin negated) ?_ ?_)
      · cases negated <;> rfl
      · cases negated <;> exact hvalues
  | case5 column name negated =>
      refine .column _ _ _ (.text (isPlain_nullTest negated) ?_ ?_)
      · cases negated <;> rfl
      · exact .nil
  | case6 column name low high negated =>
      have hhigh : Piece.Regular false [.text " AND ", .value high] [high] :=
        .text (isPlain_of_mem_joints (by decide)) rfl (.value high .nil)
      have hbetween : ("BETWEEN ", [.word "BETWEEN"]) ∈ ranges := by decide
      refine .column _ _ _ (.text (isPlain_range hbetween negated) ?_ ?_)
      · cases negated <;> rfl
      · cases negated <;> exact .value low hhigh
  | case7 column name pattern negated =>
      have hlike : ("LIKE ", [.word "LIKE"]) ∈ ranges := by decide
      refine .column _ _ _ (.text (isPlain_range hlike negated) ?_ ?_)
      · cases negated <;> rfl
      · cases negated <;> exact .value (.text pattern) .nil
  | case8 name template params =>
      obtain ⟨t, ht, v, rfl, rfl⟩ := h
      exact regular_templated ht ..

end Condition

/-! ## Joins -/

namespace Join

/-- What is written for the rows of a related scope is regular and binds nothing. -/
theorem regular_sourcePieces (inner : Frame) (join : Join) :
    Piece.Regular true (join.sourcePieces inner) [] := by
  refine ⟨fun d => ?_, ?_, ?_⟩
  · have hinner : isPlain d " INNER JOIN " = true := isPlain_of_mem_joints (by decide) d
    have hon : isPlain d " ON " = true := isPlain_of_mem_joints (by decide) d
    have hequals : isPlain d " = " = true := isPlain_of_mem_joints (by decide) d
    unfold sourcePieces
    cases join.link <;> simp [Piece.Settled, hinner, hon, hequals]
  · unfold sourcePieces
    cases join.link <;> rfl
  · unfold sourcePieces
    cases join.link <;> rfl

/-- So is the tie to the parent row. -/
theorem regular_tiePieces (outer inner : Frame) (join : Join) :
    Piece.Regular true (join.tiePieces outer inner) [] := by
  have hequals : ∀ d, isPlain d " = " = true := isPlain_of_mem_joints (by decide)
  unfold tiePieces
  cases join.link with
  | none => exact .column _ _ _ (.text hequals rfl (.column _ _ _ .nil))
  | some link => exact .column _ _ _ (.text hequals rfl (.column _ _ _ .nil))

/-- So are both together. -/
theorem regular_pieces (outer inner : Frame) (join : Join) :
    Piece.Regular true
      (join.sourcePieces inner ++ .text " WHERE " :: join.tiePieces outer inner) [] := by
  have htie : Piece.Regular false (.text " WHERE " :: join.tiePieces outer inner) [] :=
    .text (isPlain_of_mem_joints (by decide)) rfl (regular_tiePieces outer inner join)
  exact (regular_sourcePieces inner join).append htie

end Join

end Sift
