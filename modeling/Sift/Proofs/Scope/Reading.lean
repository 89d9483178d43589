import Sift.Proofs.Scope.Conjunction
import Sift.Proofs.Scope.Signs

/-!
# Sift.Proofs.Scope.Reading

Conditions and joins read back from what is written for them.  Names are the only part that
a host chooses freely; each stands in front of a sign that is no name, so it is read as it was
given.  Two things are not written: whether a test for null was asked for as equality with
null, and the name and the kind of a join.

Main statements:

* `Condition.readCondition_pieces` — a condition without a template is read back, whatever
  stands behind it;
* `Join.signs_append_inj` — a join can be told from its signs.
-/

namespace Sift

open Sql (Piece Sign Token lex nameSigns columnSigns readName Unnamed)

/-! ## What is written -/

/-- What is written of a condition: equality with null is a test for null. -/
def Condition.reading : Condition → Condition
  | .compare column .eq .null => .null column false
  | .compare column .ne .null => .null column true
  | c => c

/-- A condition is written as what it is read as. -/
theorem Condition.pieces_reading (frame : Frame) (c : Condition) :
    c.reading.pieces frame = c.pieces frame := by
  fun_cases Condition.reading c <;> rfl

/-- What is written of a join: neither its name nor its kind. -/
def Join.reading (join : Join) : Join := { join with name := "", kind := .oneToOne }

/-! ## Reading conditions -/

namespace Sql

/-- The values at the beginning of signs up to the closing parenthesis, and what is left
behind that. -/
def readValues : List Sign → List Value × List Sign
  | .value v :: .mark ',' :: rest => (v :: (readValues rest).1, (readValues rest).2)
  | .value v :: .mark ')' :: rest => ([v], rest)
  | .mark ')' :: rest => ([], rest)
  | rest => ([], rest)

/-- The test that signs begin with behind a column and behind a negation, if there is one. -/
def readRange (column : String) (negated : Bool) : List Sign → Option (Condition × List Sign)
  | .word "IN" :: .mark '(' :: rest =>
    some (.among column (readValues rest).1 negated, (readValues rest).2)
  | .word "BETWEEN" :: .value low :: .word "AND" :: .value high :: rest =>
    some (.between column low high negated, rest)
  | .word "LIKE" :: .value (.text pattern) :: rest => some (.like column pattern negated, rest)
  | _ => none

/-- The test that signs begin with behind a column, and what is left behind it. -/
def readTest (column : String) : List Sign → Option (Condition × List Sign)
  | .word "IS" :: .word "NULL" :: rest => some (.null column false, rest)
  | .word "IS" :: .word "NOT" :: .word "NULL" :: rest => some (.null column true, rest)
  | .operator text :: .value v :: rest =>
    (Comparison.ofSql? text).map fun op => (.compare column op v, rest)
  | .word "NOT" :: rest => readRange column true rest
  | rest => readRange column false rest

/-- The condition that signs begin with on a column with the given qualifier, and what is
left behind it. -/
def readCondition (qualifier : String) (ss : List Sign) : Option (Condition × List Sign) :=
  let (column, rest) := readName (ss.drop ((nameSigns qualifier).length + 1))
  readTest column rest

/-- A column is read up to the text of its test. -/
theorem readCondition_column {d : Dialect} {sql : String} {ts : List Token}
    (hlex : lex d sql = some ts) (hts : ∀ us, Unnamed (ts.map .token ++ us)) (rows : Rows)
    (qualifier column : String) (ps : List Piece) (ss : List Sign) :
    readCondition qualifier
        (Piece.signsOf d (.column rows qualifier column :: .text sql :: ps) ++ ss) =
      readTest column (ts.map .token ++ (Piece.signsOf d ps ++ ss)) := by
  have hsigns : Piece.signsOf d (.column rows qualifier column :: .text sql :: ps) ++ ss =
      nameSigns qualifier ++ .mark '.' ::
        (nameSigns column ++ (ts.map .token ++ (Piece.signsOf d ps ++ ss))) := by
    simp [Piece.signs, Piece.tokens, columnTokens, nameSigns, hlex]
  have hdrop (us : List Sign) : (nameSigns qualifier ++ .mark '.' :: us).drop
      ((nameSigns qualifier).length + 1) = us := by
    simp [List.drop_append]
  rw [hsigns, readCondition, hdrop, readName_append column (hts _)]

/-- A test that may be negated is read behind its column. -/
theorem readCondition_range {word : String} {ts : List Token} (h : (word, ts) ∈ ranges)
    (d : Dialect) (rows : Rows) (qualifier column : String) (negated : Bool) (ps : List Piece)
    (ss : List Sign) :
    readCondition qualifier (Piece.signsOf d
        (.column rows qualifier column :: .text (" " ++ negation negated ++ word) :: ps) ++ ss) =
      readRange column negated (ts.map .token ++ (Piece.signsOf d ps ++ ss)) := by
  have hall : (word = "IN (" ∧ ts = [.word "IN", .mark '(']) ∨
      (word = "BETWEEN " ∧ ts = [.word "BETWEEN"]) ∨ (word = "LIKE " ∧ ts = [.word "LIKE"]) := by
    simpa [ranges] using h
  rw [readCondition_column (lex_range h negated d)]
  · rcases hall with ⟨rfl, rfl⟩ | ⟨rfl, rfl⟩ | ⟨rfl, rfl⟩ <;> cases negated <;> rfl
  · intro us
    rcases hall with ⟨rfl, rfl⟩ | ⟨rfl, rfl⟩ | ⟨rfl, rfl⟩ <;> cases negated <;>
      exact unnamed_cons (by decide) _

/-- Values are read up to the closing parenthesis. -/
theorem readValues_append (d : Dialect) (values : List Value) (ss : List Sign) :
    readValues (Piece.signsOf d ((values.map .value).intersperse (.text ", ")) ++
      .mark ')' :: ss) = (values, ss) := by
  induction values with
  | nil => rfl
  | cons v vs ih =>
      cases vs with
      | nil => rfl
      | cons w vs =>
          rw [Piece.signsOf_values, List.cons_append, List.cons_append, readValues, ih]

end Sql

open Sql (readTest readCondition readValues)

/-- A condition without a template is read back from its signs. -/
theorem Condition.readCondition_pieces {c : Condition} (h : c.isRaw = false) (d : Dialect)
    (frame : Frame) (ss : List Sign) :
    readCondition frame.qualifier (Piece.signsOf d (c.pieces frame) ++ ss) =
      some (c.reading, ss) := by
  have hnull (rows : Sql.Rows) (name : String) (negated : Bool) :
      readCondition frame.qualifier (Piece.signsOf d
        [.column rows frame.qualifier name, .text (nullTest negated)] ++ ss) =
        some (.null name negated, ss) := by
    rw [Sql.readCondition_column (lex_nullTest negated d) fun us => Sql.unnamed_cons (by decide) _]
    cases negated <;> rfl
  fun_cases Condition.pieces frame c with
  | case1 column name => exact hnull _ name false
  | case2 column name => exact hnull _ name true
  | case3 column name op value heq hne =>
      have hreading : (compare name op value).reading = .compare name op value := by
        cases op <;> cases value <;> simp_all [reading]
      rw [Sql.readCondition_column (lex_comparison op d) fun us => Sql.unnamed_cons rfl _, hreading]
      exact congrArg (Option.map _) (Comparison.ofSql?_sql op)
  | case4 column name values negated =>
      have hvalues := Sql.readValues_append d values ss
      have hin : ("IN (", [.word "IN", .mark '(']) ∈ ranges := by decide
      rw [List.append_assoc, List.cons_append, List.singleton_append, Sql.readCondition_range hin]
      simp [Sql.readRange, Piece.signs, Piece.tokens, hvalues, reading]
  | case5 column name negated => exact hnull _ name negated
  | case6 column name low high negated =>
      have hbetween : ("BETWEEN ", [.word "BETWEEN"]) ∈ ranges := by decide
      rw [Sql.readCondition_range hbetween]
      simp [Sql.readRange, Piece.signs, Piece.tokens, reading]
  | case7 column name pattern negated =>
      have hlike : ("LIKE ", [.word "LIKE"]) ∈ ranges := by decide
      rw [Sql.readCondition_range hlike]
      rfl
  | case8 name template params => cases h

/-- A condition without a template can be told from its signs, whatever stands behind them. -/
theorem Condition.signs_append_inj {c c' : Condition} (h : c.isRaw = false)
    (h' : c'.isRaw = false) {d : Dialect} {frame : Frame} {ss us : List Sign}
    (heq : Piece.signsOf d (c.pieces frame) ++ ss = Piece.signsOf d (c'.pieces frame) ++ us) :
    c.reading = c'.reading ∧ ss = us := by
  have hread := readCondition_pieces h d frame ss
  rw [heq, readCondition_pieces h' d frame us] at hread
  exact (Prod.mk.inj (Option.some.inj hread)).imp Eq.symm Eq.symm

/-- The signs of a condition without a template begin with a column. -/
theorem Condition.exists_signs_pieces {c : Condition} (h : c.isRaw = false) (d : Dialect)
    (frame : Frame) :
    ∃ ss, Piece.signsOf d (c.pieces frame) = columnSigns frame.qualifier c.column ++ ss := by
  fun_cases Condition.pieces frame c with
  | case8 name template params => cases h
  | _ => exact ⟨_, rfl⟩

/-- What begins with a column is no test for a related row. -/
theorem Sql.columnSigns_append_ne (qualifier name : String) (ss us : List Sign) :
    columnSigns qualifier name ++ ss ≠ .word "EXISTS" :: us := by
  intro h
  simp only [columnSigns_eq, List.append_assoc, List.cons_append] at h
  cases hname : nameSigns qualifier with
  | nil => simp [hname] at h
  | cons s rest =>
      rw [hname, List.cons_append] at h
      have hs := isName_of_mem_nameSigns qualifier s (hname ▸ List.mem_cons_self)
      rw [(List.cons.inj h).1] at hs
      revert hs
      decide

/-! ## Reading joins -/

namespace Join

/-- The pieces of a join together with the tie to the parent row. -/
def pieces (outer inner : Frame) (join : Join) : List Piece :=
  join.sourcePieces inner ++ .text " WHERE " :: join.tiePieces outer inner

/-- The signs of a join behind the name of the related rows, up to the column of the parent
row. -/
def linkSigns (inner : Frame) (join : Join) : List Sign :=
  match join.link with
  | none => .word "WHERE" :: columnSigns inner.qualifier join.relatedColumn
  | some link =>
    .word "INNER" :: .word "JOIN" :: (nameSigns link.table ++ .word "AS" ::
      (nameSigns inner.linkAlias ++ .word "ON" ::
        (columnSigns inner.linkAlias link.targetColumn ++ .operator "=" ::
          (columnSigns inner.qualifier join.relatedColumn ++ .word "WHERE" ::
            columnSigns inner.linkAlias link.sourceColumn))))

/-- The signs of a join are its names, in a fixed order. -/
theorem signs_pieces (d : Dialect) (outer inner : Frame) (join : Join) :
    Piece.signsOf d (join.pieces outer inner) =
      Piece.signs d .opening ++ (nameSigns join.relatedTable ++ .word "AS" ::
        (nameSigns inner.qualifier ++ (linkSigns inner join ++ .operator "=" ::
          columnSigns outer.qualifier join.parentColumn))) := by
  unfold pieces sourcePieces tiePieces linkSigns
  cases join.link with
  | none => simp [Piece.signs, Piece.tokens, columnSigns, nameSigns]
  | some link => simp [Piece.signs, Piece.tokens, columnSigns, nameSigns]

/-- A join can be told from its signs, up to what is not written of it. -/
theorem signs_append_inj {d : Dialect} {outer : Frame} {j j' : Join} {ss us : List Sign}
    (hs : Unnamed ss) (hu : Unnamed us)
    (h : Piece.signsOf d (j.pieces outer (outer.related j)) ++ ss =
      Piece.signsOf d (j'.pieces outer (outer.related j')) ++ us) :
    j.reading = j'.reading ∧ ss = us := by
  simp only [signs_pieces, List.append_assoc, List.cons_append] at h
  obtain ⟨htable, h⟩ := Sql.nameSigns_cons_inj (by decide) (List.append_cancel_left h)
  -- what names the related rows depends on the depth only
  replace h := List.append_cancel_left h
  cases hlink : j.link with
  | none =>
      cases hlink' : j'.link with
      | none =>
          simp only [linkSigns, hlink, hlink', List.cons_append] at h
          obtain ⟨hrelated, h⟩ := Sql.columnSigns_cons_inj rfl (List.cons.inj h).2
          obtain ⟨hparent, h⟩ := Sql.columnSigns_append_inj hs hu h
          simp [reading, htable, hrelated, hparent, hlink, hlink', h]
      | some link' => simp [linkSigns, hlink, hlink'] at h
  | some link =>
      cases hlink' : j'.link with
      | none => simp [linkSigns, hlink, hlink'] at h
      | some link' =>
          simp only [linkSigns, hlink, hlink', List.append_assoc, List.cons_append] at h
          obtain ⟨hlinkTable, h⟩ :=
            Sql.nameSigns_cons_inj (by decide) (List.cons.inj (List.cons.inj h).2).2
          obtain ⟨htarget, h⟩ :=
            Sql.columnSigns_cons_inj rfl (List.cons.inj (List.append_cancel_left h)).2
          obtain ⟨hrelated, h⟩ := Sql.columnSigns_cons_inj (by decide) h
          obtain ⟨hsource, h⟩ := Sql.columnSigns_cons_inj rfl h
          obtain ⟨hparent, h⟩ := Sql.columnSigns_append_inj hs hu h
          have hlinks : link = link' := by
            cases link
            cases link'
            simp_all
          simp [reading, htable, hrelated, hparent, hlink, hlink', hlinks, h]

end Join

end Sift
