import Sift.Proofs.Scope.Program
import Sift.Proofs.Scope.Regular

/-!
# Sift.Proofs.Scope.Placeholders

The placeholders of a statement and the values that are bound to them.  Read as tokens, so
that names in delimiters count for nothing, the statement of a query holds one placeholder
for each value, and the values stand in the order of the conditions that they belong to.

Templates are taken to come from built-in operators; any other may hold anything.

Main statement: `agrees_reached` — this is so of every query that a host can make.
-/

namespace Sift

open Sql (Piece lex isPlain)
open Operator (Templated)

/-! ## Templates of built-in operators -/

/-- The template of a condition, if it has one, comes from a built-in operator. -/
def Condition.FromOperator : Condition → Prop
  | .raw column template params => ∃ (op : Operator) (inv : Invocation),
      op.build inv = .ok (.raw column template params)
  | _ => True

/-- What an operator makes is in one of the templates, if in any. -/
theorem Condition.FromOperator.templated {c : Condition} (h : c.FromOperator) : Templated c := by
  cases c with
  | raw column template params =>
      obtain ⟨op, inv, hbuild⟩ := h
      exact Operator.templated_build hbuild
  | compare | among | null | between | like => exact trivial

/-! ## Clauses -/

namespace Clause

/-- The values that clauses bind: those of their conditions, from the left. -/
def boundOf (cs : List Clause) : List Value := (conditionsOf cs).flatMap Condition.bound

/-- Clauses bind their values in turn. -/
theorem boundOf_cons (c : Clause) (cs : List Clause) :
    boundOf (c :: cs) = c.conditions.flatMap Condition.bound ++ boundOf cs := by
  rw [boundOf, conditionsOf, List.flatMap_append, boundOf]

mutual

/-- What is written for a clause is regular, and binds the values of its conditions. -/
theorem regular_pieces (frame : Frame) : (c : Clause) → (∀ a ∈ c.conditions, Templated a) →
    Piece.Regular true (c.pieces frame) (c.conditions.flatMap Condition.bound)
  | .condition c, h => by
      have hc := Condition.regular_pieces (h c (List.mem_singleton_self c)) frame
      simpa [pieces, conditions] using hc
  | .related join inner clauses, h => by
      have hjoin := join.regular_pieces frame inner
      have hmore := regular_piecesMore inner clauses h
      have hclosing : Piece.Regular false [.closing] [] :=
        .cons (fun _ => trivial) rfl rfl .nil
      have hall := (hjoin.append hmore).append hclosing
      rwa [List.nil_append, List.append_nil] at hall

theorem regular_piecesMore (frame : Frame) : (cs : List Clause) →
    (∀ a ∈ conditionsOf cs, Templated a) →
    Piece.Regular false (piecesMore frame cs) (boundOf cs)
  | [], _ => .nil
  | c :: cs, h => by
      have hc := regular_pieces frame c fun a ha => h a (List.mem_append_left _ ha)
      have hcs := regular_piecesMore frame cs fun a ha => h a (List.mem_append_right _ ha)
      rw [boundOf_cons]
      exact .text (isPlain_of_mem_joints (by decide)) rfl (hc.append hcs)

end

/-- Clauses with regular conditions are regular, and bind what their conditions do. -/
theorem regular_piecesOf (frame : Frame) {cs : List Clause}
    (h : ∀ a ∈ conditionsOf cs, Templated a) :
    Piece.Regular true (piecesOf frame cs) (boundOf cs) := by
  cases cs with
  | nil => exact .nil
  | cons c cs =>
      rw [boundOf_cons]
      exact (regular_pieces frame c fun a ha => h a (List.mem_append_left _ ha)).append
        (regular_piecesMore frame cs fun a ha => h a (List.mem_append_right _ ha))

end Clause

/-! ## Scopes -/

namespace Scope

variable {s : Scope}

/-- What is written for the condition of a scope is regular. -/
theorem regular_pieces (h : ∀ c ∈ Clause.conditionsOf s.clauses, Templated c) :
    Piece.Regular true s.pieces (Clause.boundOf s.clauses) := by
  obtain ⟨frame, clauses⟩ := s
  cases clauses with
  | nil =>
      refine ⟨fun d => ?_, rfl, rfl⟩
      have htrue : isPlain d "TRUE" = true := isPlain_of_mem_joints (by decide) d
      simpa [pieces, isEmpty, Piece.Settled] using htrue
  | cons c cs => exact Clause.regular_piecesOf frame h

/-- What is written for further clauses stands behind what was written before. -/
theorem pieces_extend (h : s.isEmpty = false) (cs : List Clause) :
    (s.extend cs).pieces = s.pieces ++ Clause.piecesMore s.frame cs := by
  obtain ⟨frame, clauses⟩ := s
  cases clauses with
  | nil => cases h
  | cons c clauses =>
      simp [pieces, extend, isEmpty, Clause.piecesOf, Clause.piecesMore_append]

/-! ## What a host can make -/

/-- The placeholders of the statements of a scope over a table agree with the values that
are bound to them. -/
structure Agrees (d : Dialect) (table : String) (s : Scope) : Prop where
  /-- There is one placeholder for each value, numbered from the left.  Names in delimiters
  are single tokens, and no placeholder is lost in a literal. -/
  placeholders : ∃ ts, lex d s.whereSql.text = some ts ∧ (∀ t ∈ ts, t.isLiteral = false) ∧
    Sql.placeholders ts =
      (List.range s.whereSql.params.length).map fun i => d.placeholder (i + 1)
  /-- The values stand in the order of the conditions. -/
  params : s.whereSql.params = (Clause.conditionsOf s.clauses).flatMap Condition.bound
  /-- The whole statement binds the same values. -/
  params_select : s.selectSql.params = s.whereSql.params
  /-- The whole statement ends with the condition. -/
  text_select : s.isEmpty = false →
    s.selectSql.text =
      "SELECT * FROM " ++ d.quoteIdentifier table ++ " WHERE " ++ s.whereSql.text
  /-- One more clause is written behind what was there. -/
  push : s.isEmpty = false → ∀ c, ∃ text params,
    (s.push c).whereSql.text = s.whereSql.text ++ text ∧
      (s.push c).whereSql.params = s.whereSql.params ++ params

/-- Whatever a host asks for, with templates of built-in operators, the placeholders agree
with the values. -/
theorem agrees_reached (d : Dialect) (table : String) (p : Program)
    (h : ∀ c ∈ Clause.conditionsOf (p.reached d table).clauses, c.FromOperator) :
    (p.reached d table).Agrees d table := by
  have hframe : (p.reached d table).frame = .root d table := by rw [Program.reached_eq]
  generalize p.reached d table = s at h hframe
  have hdialect : s.frame.dialect = d := congrArg Frame.dialect hframe
  have hregular := regular_pieces fun c hc => (h c hc).templated
  have hparams : s.whereSql.params = Clause.boundOf s.clauses := by
    rw [params_whereSql, hregular.bound]
  refine ⟨?_, hparams, params_selectSql s, ?_, ?_⟩
  · refine ⟨Piece.tokensOf d 0 s.pieces, ?_, ?_, ?_⟩
    · rw [text_whereSql, hdialect]
      exact hregular.lex_textOf d 0
    · exact Piece.forall_mem_tokensOf
        (fun p hp => Piece.isLiteral_tokens (hregular.settled d p hp)) 0
    · rw [Piece.placeholders_tokensOf (hregular.settled d), ← params_whereSql,
        List.range_eq_range']
  · intro hs
    rw [text_selectSql hs, hframe]
    rfl
  · intro hs c
    refine ⟨Piece.textOf s.frame.dialect (Piece.boundBy s.pieces).length
      (Clause.piecesMore s.frame [c]), Piece.boundBy (Clause.piecesMore s.frame [c]), ?_, ?_⟩
    · have hpush := congrArg (Piece.textOf s.frame.dialect 0) (pieces_extend hs [c])
      rw [Piece.textOf_append, Nat.zero_add] at hpush
      rw [text_whereSql, text_whereSql]
      exact hpush
    · have hpush := congrArg Piece.boundBy (pieces_extend hs [c])
      rw [Piece.boundBy_append] at hpush
      rw [params_whereSql, params_whereSql]
      exact hpush

/-- A query for rows with a question mark in the name of the table and of a column, and in a
value. -/
def Program.questions : Program :=
  .condition (.raw "why?" (Condition.columnMark ++ " ILIKE ?") [.text "?%"]) <|
    .related (.has "answers" .oneToMany "answers" "question_id" "id")
      (.condition (.between "votes" (.int 1) (.int 9) false) .done) fun _ =>
        .condition (.compare "closed" .eq .null) .done

theorem agrees_questions :
    (∀ c ∈ Clause.conditionsOf (Program.questions.reached .postgres "open?").clauses,
        c.FromOperator) ∧
      (Program.questions.reached .postgres "open?").Agrees .postgres "open?" := by
  have h : ∀ c ∈ Clause.conditionsOf (Program.questions.reached .postgres "open?").clauses,
      c.FromOperator := by
    intro c hc
    rw [Program.reached_eq] at hc
    simp only [Program.questions, Program.clauses, Program.outcome, Clause.conditionsOf,
      Clause.conditions, List.append_nil, List.cons_append, List.nil_append, List.mem_cons,
      List.not_mem_nil, or_false] at hc
    rcases hc with rfl | rfl | rfl
    · exact ⟨.like, ⟨"$like", "why?", [.text "?%"], .postgres⟩, rfl⟩
    · exact trivial
    · exact trivial
  exact ⟨h, agrees_reached .postgres "open?" Program.questions h⟩

end Scope

end Sift
