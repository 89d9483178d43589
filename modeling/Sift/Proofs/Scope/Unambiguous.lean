import Sift.Proofs.Scope.Placeholders
import Sift.Proofs.Scope.Reading

/-!
# Sift.Proofs.Scope.Unambiguous

No two queries are written alike.  A clause ends where it ends, whatever stands behind it: a
related scope is closed by its parenthesis, and every other clause by its last value or
keyword.  So clauses are read off one by one, and no name, whatever characters it holds, makes
one query read as another.

Templates are left out: they may hold anything, the text of another condition included.

Main statements:

* `Clause.signs_append_inj` — a clause can be told from its signs;
* `Scope.text_params_eq_iff` — a query can be told from its text and its parameters.
-/

namespace Sift

open Sql (Piece Sign Unnamed)

/-! ## What is written -/

namespace Clause

mutual

/-- What is written of a clause. -/
def reading : Clause → Clause
  | .condition c => .condition c.reading
  | .related join frame clauses => .related join.reading frame (readings clauses)

def readings : List Clause → List Clause
  | [] => []
  | c :: cs => c.reading :: readings cs

end

mutual

/-- A clause is written as it is read. -/
theorem pieces_reading (frame : Frame) : (c : Clause) → c.reading.pieces frame = c.pieces frame
  | .condition c => Condition.pieces_reading frame c
  | .related join inner clauses => by
      rw [reading, pieces, pieces, piecesMore_readings inner clauses]
      rfl

theorem piecesMore_readings (frame : Frame) : (cs : List Clause) →
    piecesMore frame (readings cs) = piecesMore frame cs
  | [] => rfl
  | c :: cs => by
      rw [readings, piecesMore, piecesMore, pieces_reading frame c, piecesMore_readings frame cs]

end

/-! ## Telling clauses apart -/

/-- What stands behind clauses: nothing, or what does not begin with an `AND`. -/
def Ended (ss : List Sign) : Prop := ss.head? ≠ some (.word "AND")

theorem signs_piecesMore_cons (d : Dialect) (frame : Frame) (c : Clause) (cs : List Clause) :
    Piece.signsOf d (piecesMore frame (c :: cs)) =
      .word "AND" :: (Piece.signsOf d (c.pieces frame) ++
        Piece.signsOf d (piecesMore frame cs)) := by
  simp [piecesMore, Piece.signs, Piece.tokens]

theorem signs_related (d : Dialect) (frame inner : Frame) (join : Join) (clauses : List Clause) :
    Piece.signsOf d (pieces frame (.related join inner clauses)) =
      Piece.signsOf d (join.pieces frame inner) ++
        (Piece.signsOf d (piecesMore inner clauses) ++ [.mark ')']) := by
  simp [pieces, Join.pieces, Piece.signs, Piece.tokens]

/-- A condition does not begin like a test for a related row. -/
theorem signs_condition_ne {c : Condition} (h : c.isRaw = false) (d : Dialect)
    (frame inner : Frame) (join : Join) (clauses : List Clause) (ss us : List Sign) :
    Piece.signsOf d (c.pieces frame) ++ ss ≠
      Piece.signsOf d (pieces frame (.related join inner clauses)) ++ us := by
  obtain ⟨rest, hc⟩ := Condition.exists_signs_pieces h d frame
  rw [hc, List.append_assoc, signs_related, Join.signs_pieces]
  exact Sql.columnSigns_append_ne _ _ _ _

/-- No name stands behind the tie to the parent row. -/
theorem unnamed_piecesMore (d : Dialect) (frame : Frame) (cs : List Clause) (ss : List Sign) :
    Unnamed (Piece.signsOf d (piecesMore frame cs) ++ .mark ')' :: ss) := by
  cases cs with
  | nil => exact Sql.unnamed_cons rfl ss
  | cons c cs =>
      rw [signs_piecesMore_cons]
      exact Sql.unnamed_cons (by decide) _

mutual

/-- A clause can be told from its signs, whatever stands behind them. -/
theorem signs_append_inj (d : Dialect) (frame : Frame) : (c c' : Clause) → c.Nested frame →
    c'.Nested frame → (∀ a ∈ c.conditions, a.isRaw = false) →
    (∀ a ∈ c'.conditions, a.isRaw = false) → (ss us : List Sign) →
    Piece.signsOf d (c.pieces frame) ++ ss = Piece.signsOf d (c'.pieces frame) ++ us →
    c.reading = c'.reading ∧ ss = us
  | .condition c, .condition c', _, _, hraw, hraw', ss, us, h => by
      obtain ⟨hreading, hrest⟩ := Condition.signs_append_inj (hraw c (List.mem_singleton_self c))
        (hraw' c' (List.mem_singleton_self c')) h
      rw [reading, reading, hreading]
      exact ⟨rfl, hrest⟩
  | .condition c, .related join inner clauses, _, _, hraw, _, ss, us, h =>
      absurd h (signs_condition_ne (hraw c (List.mem_singleton_self c)) d frame _ _ _ ss us)
  | .related join inner clauses, .condition c, _, _, _, hraw, ss, us, h =>
      absurd h.symm (signs_condition_ne (hraw c (List.mem_singleton_self c)) d frame _ _ _ us ss)
  | .related join inner clauses, .related join' inner' clauses', hnested, hnested', hraw, hraw',
      ss, us, h => by
      rw [Nested] at hnested hnested'
      obtain ⟨rfl, hclauses⟩ := hnested
      obtain ⟨rfl, hclauses'⟩ := hnested'
      simp only [signs_related, List.append_assoc] at h
      obtain ⟨hjoin, hmore⟩ := Join.signs_append_inj (unnamed_piecesMore d _ _ ss)
        (unnamed_piecesMore d _ _ us) h
      have htable : join.reading.relatedTable = join'.reading.relatedTable := by rw [hjoin]
      have hframe : frame.related join = frame.related join' := by
        rw [Frame.related, Frame.related]
        exact congrArg (Frame.mk _ · _ _) htable
      rw [hframe] at hclauses hmore
      obtain ⟨hreadings, hrest⟩ := signs_append_inj_more d _ clauses clauses' hclauses hclauses'
        hraw hraw' _ _ (by simp [Ended]) (by simp [Ended]) hmore
      rw [reading, reading, hjoin, hframe, hreadings]
      exact ⟨rfl, (List.cons.inj hrest).2⟩

theorem signs_append_inj_more (d : Dialect) (frame : Frame) : (cs cs' : List Clause) →
    NestedEach frame cs → NestedEach frame cs' → (∀ a ∈ conditionsOf cs, a.isRaw = false) →
    (∀ a ∈ conditionsOf cs', a.isRaw = false) → (ss us : List Sign) → Ended ss → Ended us →
    Piece.signsOf d (piecesMore frame cs) ++ ss = Piece.signsOf d (piecesMore frame cs') ++ us →
    readings cs = readings cs' ∧ ss = us
  | [], [], _, _, _, _, ss, us, _, _, h => ⟨rfl, h⟩
  | [], c :: cs, _, _, _, _, ss, us, hss, _, h => by
      rw [signs_piecesMore_cons] at h
      exact absurd (congrArg List.head? h) hss
  | c :: cs, [], _, _, _, _, ss, us, _, hus, h => by
      rw [signs_piecesMore_cons] at h
      exact absurd (congrArg List.head? h).symm hus
  | c :: cs, c' :: cs', hnested, hnested', hraw, hraw', ss, us, hss, hus, h => by
      rw [NestedEach] at hnested hnested'
      obtain ⟨hc, hcs⟩ := List.forall_mem_append.mp hraw
      obtain ⟨hc', hcs'⟩ := List.forall_mem_append.mp hraw'
      simp only [signs_piecesMore_cons, List.cons_append, List.append_assoc] at h
      obtain ⟨hreading, hrest⟩ := signs_append_inj d frame c c' hnested.1 hnested'.1 hc hc' _ _
        (List.cons.inj h).2
      obtain ⟨hreadings, hrest⟩ := signs_append_inj_more d frame cs cs' hnested.2 hnested'.2 hcs
        hcs' ss us hss hus hrest
      rw [readings, readings, hreading, hreadings]
      exact ⟨rfl, hrest⟩

end

/-- There is a column in what is written for a clause. -/
theorem mem_signs_pieces (d : Dialect) (frame : Frame) {c : Clause}
    (h : ∀ a ∈ c.conditions, a.isRaw = false) :
    Sign.mark '.' ∈ Piece.signsOf d (c.pieces frame) := by
  cases c with
  | condition c =>
      obtain ⟨rest, hc⟩ := Condition.exists_signs_pieces (h c (List.mem_singleton_self c)) d frame
      rw [pieces, hc]
      simp [Sql.columnSigns_eq]
  | related join inner clauses =>
      rw [signs_related, Join.signs_pieces]
      simp [Sql.columnSigns_eq]

end Clause

/-! ## Scopes -/

namespace Scope

theorem pieces_readings (frame : Frame) (cs : List Clause) :
    pieces ⟨frame, Clause.readings cs⟩ = pieces ⟨frame, cs⟩ := by
  cases cs with
  | nil => rfl
  | cons c cs =>
      have hpieces : c.reading.pieces frame ++ Clause.piecesMore frame (Clause.readings cs) =
          c.pieces frame ++ Clause.piecesMore frame cs := by
        rw [Clause.pieces_reading, Clause.piecesMore_readings]
      exact hpieces

/-- The clauses of a scope can be told from the signs of its condition. -/
theorem readings_eq_of_signsOf_eq {d : Dialect} {frame : Frame} {cs cs' : List Clause}
    (hnested : Clause.NestedEach frame cs) (hnested' : Clause.NestedEach frame cs')
    (hraw : ∀ a ∈ Clause.conditionsOf cs, a.isRaw = false)
    (hraw' : ∀ a ∈ Clause.conditionsOf cs', a.isRaw = false)
    (h : Piece.signsOf d (pieces ⟨frame, cs⟩) = Piece.signsOf d (pieces ⟨frame, cs'⟩)) :
    Clause.readings cs = Clause.readings cs' := by
  have htrue : Piece.signsOf d [.text "TRUE"] = [.word "TRUE"] := by cases d <;> rfl
  have hsome (c : Clause) (cs : List Clause)
      (hraw : ∀ a ∈ Clause.conditionsOf (c :: cs), a.isRaw = false) :
      Piece.signsOf d (pieces ⟨frame, c :: cs⟩) ≠ Piece.signsOf d [.text "TRUE"] := by
    intro h
    have hmem := Clause.mem_signs_pieces d frame (List.forall_mem_append.mp hraw).1
    have hall : Sign.mark '.' ∈ Piece.signsOf d (pieces ⟨frame, c :: cs⟩) := by
      have happend := List.mem_append_left (Piece.signsOf d (Clause.piecesMore frame cs)) hmem
      rwa [← Piece.signsOf_append] at happend
    rw [h, htrue] at hall
    simp at hall
  cases cs with
  | nil =>
      cases cs' with
      | nil => rfl
      | cons c' cs' => exact absurd h.symm (hsome c' cs' hraw')
  | cons c cs =>
      cases cs' with
      | nil => exact absurd h (hsome c cs hraw)
      | cons c' cs' =>
          rw [Clause.NestedEach] at hnested hnested'
          obtain ⟨hc, hcs⟩ := List.forall_mem_append.mp hraw
          obtain ⟨hc', hcs'⟩ := List.forall_mem_append.mp hraw'
          have hsigns : Piece.signsOf d (c.pieces frame ++ Clause.piecesMore frame cs) =
              Piece.signsOf d (c'.pieces frame ++ Clause.piecesMore frame cs') := h
          simp only [Piece.signsOf_append] at hsigns
          obtain ⟨hreading, hmore⟩ := Clause.signs_append_inj d frame c c' hnested.1 hnested'.1 hc
            hc' _ _ hsigns
          obtain ⟨hreadings, -⟩ := Clause.signs_append_inj_more d frame cs cs' hnested.2 hnested'.2
            hcs hcs' [] [] nofun nofun (by simpa using hmore)
          rw [Clause.readings, Clause.readings, hreading, hreadings]

/-- Two queries without templates for the rows of one table have the same text and the same
parameters exactly if they were asked for the same, up to what is not written: the name and the
kind of a join, and whether a test for null was asked for as equality. -/
theorem text_params_eq_iff (d : Dialect) (table : String) (p q : Program)
    (hp : ∀ c ∈ Clause.conditionsOf (p.reached d table).clauses, c.isRaw = false)
    (hq : ∀ c ∈ Clause.conditionsOf (q.reached d table).clauses, c.isRaw = false) :
    ((p.reached d table).whereSql.text = (q.reached d table).whereSql.text ∧
      (p.reached d table).whereSql.params = (q.reached d table).whereSql.params) ↔
    Clause.readings (p.reached d table).clauses = Clause.readings (q.reached d table).clauses := by
  simp only [Program.reached_eq, text_whereSql, params_whereSql] at hp hq ⊢
  have hregular := regular_pieces (s := ⟨.root d table, p.clauses (.root d table)⟩)
    fun c hc => Condition.templated_of_isRaw_eq_false (hp c hc)
  have hregular' := regular_pieces (s := ⟨.root d table, q.clauses (.root d table)⟩)
    fun c hc => Condition.templated_of_isRaw_eq_false (hq c hc)
  constructor
  · rintro ⟨htext, hparams⟩
    have hbound := hregular.bound
    rw [hparams, hregular'.bound] at hbound
    rw [← hbound] at hregular
    exact readings_eq_of_signsOf_eq (Program.nested_clauses p _) (Program.nested_clauses q _) hp hq
      (Piece.signsOf_eq_of_textOf_eq hregular hregular' htext)
  · intro h
    rw [← pieces_readings, h, pieces_readings]
    exact ⟨rfl, rfl⟩

/-- A query for rows that have null in each of the columns. -/
def Program.nulls (columns : List String) : Program :=
  columns.foldr (fun column next => .condition (.null column false) next) .done

theorem isRaw_nulls (columns : List String) (d : Dialect) (table : String) :
    ∀ c ∈ Clause.conditionsOf ((Program.nulls columns).reached d table).clauses,
      c.isRaw = false := by
  rw [Program.reached_eq]
  induction columns with
  | nil => exact nofun
  | cons column columns ih =>
      exact List.forall_mem_cons.mpr ⟨rfl, ih⟩

/-- The name of a column that holds the text between two other columns makes no query for
these. -/
theorem text_nulls_ne :
    let two := Program.nulls ["deleted at", "order"]
    let one := Program.nulls ["deleted at\" IS NULL AND users.\"order"]
    (∀ c ∈ Clause.conditionsOf (two.reached .postgres "users").clauses, c.isRaw = false) ∧
      (∀ c ∈ Clause.conditionsOf (one.reached .postgres "users").clauses, c.isRaw = false) ∧
      (two.reached .postgres "users").whereSql.params =
        (one.reached .postgres "users").whereSql.params ∧
      (two.reached .postgres "users").whereSql.text ≠
        (one.reached .postgres "users").whereSql.text := by
  intro two one
  have htwo := isRaw_nulls ["deleted at", "order"] .postgres "users"
  have hone := isRaw_nulls ["deleted at\" IS NULL AND users.\"order"] .postgres "users"
  have hparams : (two.reached .postgres "users").whereSql.params =
      (one.reached .postgres "users").whereSql.params := by
    simp only [params_whereSql, Program.reached_eq]
    rfl
  refine ⟨htwo, hone, hparams, fun htext => ?_⟩
  have hreadings := (text_params_eq_iff .postgres "users" two one htwo hone).mp ⟨htext, hparams⟩
  simp [Program.reached_eq, two, one, Program.nulls, Program.clauses, Clause.readings] at hreadings

end Scope

end Sift
