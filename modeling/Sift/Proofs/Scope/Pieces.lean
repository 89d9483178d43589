import Sift.Scope.Render

/-!
# Sift.Proofs.Scope.Pieces

Statements in pieces.  What is written for a clause is a list of pieces that does not
depend on what stands before it; only the number of a placeholder does.  A piece for a
column says whose column is meant, and the pieces for a related row say where names are
given to tables and where these names end.

Main statements:

* `render_eq_writeAll` — a clause is written in its pieces;
* `whereSql_eq`, `selectSql_eq` — so are the condition and the statement of a scope;
* `text_writeAll`, `params_writeAll` — what pieces write and bind, whatever stands before
  them.
-/

namespace Sift

open Sql (Fragment)

/-! ## Pieces -/

/-- Rows that a column may belong to. -/
inductive Sql.Rows where
  /-- The rows of a scope that lies in so many others. -/
  | scope (depth : Nat)
  /-- The rows of the link table in such a scope. -/
  | link (depth : Nat)
deriving DecidableEq, Repr

/-- What a statement is written in. -/
inductive Sql.Piece where
  /-- Text as it stands. -/
  | text (sql : String)
  /-- A value in place of which a placeholder is written. -/
  | value (v : Value)
  /-- The name of a table. -/
  | table (name : String)
  /-- A column of some rows. -/
  | column (rows : Rows) (qualifier name : String)
  /-- The beginning of a test for a related row. -/
  | opening
  /-- The name that a table goes by in the test, and the rows that it stands for there. -/
  | named (name : String) (rows : Rows)
  /-- The end of the test. -/
  | closing

namespace Sql.Piece

/-- Write a piece. -/
def write : Piece → Fragment → Fragment
  | text sql, f => f.push sql
  | value v, f => f.pushParam v
  | table name, f => f.pushIdentifier name
  | column _ qualifier name, f => f.pushColumn qualifier name
  | opening, f => f.push "EXISTS (SELECT 1 FROM "
  | named name _, f => (f.push " AS ").pushIdentifier name
  | closing, f => f.push ")"

def writeAll : List Piece → Fragment → Fragment
  | [], f => f
  | p :: ps, f => writeAll ps (p.write f)

/-- The values that a piece binds. -/
def bound : Piece → List Value
  | value v => [v]
  | _ => []

def boundBy (ps : List Piece) : List Value := ps.flatMap bound

/-- What a piece writes behind so many bound values. -/
def textAt (d : Dialect) (n : Nat) : Piece → String
  | text sql => sql
  | value _ => d.placeholder (n + 1)
  | table name => d.quoteIdentifier name
  | column _ qualifier name => d.quoteIdentifier qualifier ++ "." ++ d.quoteIdentifier name
  | opening => "EXISTS (SELECT 1 FROM "
  | named name _ => " AS " ++ d.quoteIdentifier name
  | closing => ")"

def textOf (d : Dialect) (n : Nat) : List Piece → String
  | [] => ""
  | p :: ps => p.textAt d n ++ textOf d (n + p.bound.length) ps

/-! ## Writing pieces in turn -/

@[simp] theorem writeAll_nil (f : Fragment) : writeAll [] f = f := rfl

@[simp] theorem writeAll_cons (p : Piece) (ps : List Piece) (f : Fragment) :
    writeAll (p :: ps) f = writeAll ps (p.write f) := rfl

@[simp] theorem writeAll_append (ps qs : List Piece) (f : Fragment) :
    writeAll (ps ++ qs) f = writeAll qs (writeAll ps f) := by
  induction ps generalizing f with
  | nil => rfl
  | cons p ps ih => simp [ih]

@[simp] theorem boundBy_nil : boundBy [] = [] := rfl

@[simp] theorem boundBy_cons (p : Piece) (ps : List Piece) :
    boundBy (p :: ps) = p.bound ++ boundBy ps := rfl

@[simp] theorem boundBy_append (ps qs : List Piece) :
    boundBy (ps ++ qs) = boundBy ps ++ boundBy qs := by
  simp [boundBy]

theorem dialect_write (p : Piece) (f : Fragment) : (p.write f).dialect = f.dialect := by
  cases p <;> rfl

/-- Writing a piece binds what the piece binds. -/
theorem params_write (p : Piece) (f : Fragment) :
    (p.write f).params = f.params ++ p.bound := by
  cases p <;> simp [write, bound, Fragment.pushIdentifier]

/-- It writes the text of the piece, with placeholders numbered from what is bound already. -/
theorem text_write (p : Piece) (f : Fragment) :
    (p.write f).text = f.text ++ p.textAt f.dialect f.params.length := by
  cases p with
  | text | value | table | opening | closing => rfl
  | column rows qualifier name => exact f.text_pushColumn qualifier name
  | named name rows =>
      simp only [write, textAt, Fragment.pushIdentifier, Fragment.text_push,
        Fragment.dialect_push, String.append_assoc]

theorem dialect_writeAll (ps : List Piece) (f : Fragment) :
    (writeAll ps f).dialect = f.dialect := by
  induction ps generalizing f with
  | nil => rfl
  | cons p ps ih => rw [writeAll_cons, ih, dialect_write]

/-- Pieces bind their values behind those that are bound already. -/
theorem params_writeAll (ps : List Piece) (f : Fragment) :
    (writeAll ps f).params = f.params ++ boundBy ps := by
  induction ps generalizing f with
  | nil => simp
  | cons p ps ih => simp [ih, params_write]

/-- What pieces write depends on what stands before them by the number of bound values
only. -/
theorem text_writeAll (ps : List Piece) (f : Fragment) :
    (writeAll ps f).text = f.text ++ textOf f.dialect f.params.length ps := by
  induction ps generalizing f with
  | nil => simp [textOf]
  | cons p ps ih =>
      rw [writeAll_cons, ih, text_write, dialect_write, params_write, List.length_append,
        String.append_assoc, textOf]

/-- The text of pieces is written in parts, with the numbers going on. -/
theorem textOf_append (d : Dialect) (n : Nat) (ps qs : List Piece) :
    textOf d n (ps ++ qs) = textOf d n ps ++ textOf d (n + (boundBy ps).length) qs := by
  induction ps generalizing n with
  | nil => simp [textOf]
  | cons p ps ih => simp [textOf, ih, String.append_assoc, Nat.add_assoc]

/-! ## Templates -/

/-- The pieces for the chunks between the question marks of a template, and the values that
are left. -/
def ofChunks : List (List Char) → List Value → List Piece × List Value
  | [], params => ([], params)
  | [chunk], params => ([text (String.ofList chunk)], params)
  | chunk :: chunks, [] =>
    let (ps, left) := ofChunks chunks []
    (text (String.ofList chunk) :: text "?" :: ps, left)
  | chunk :: chunks, v :: params =>
    let (ps, left) := ofChunks chunks params
    (text (String.ofList chunk) :: value v :: ps, left)

/-- The pieces for the parts of a template between the marks for the column. -/
def ofParts (rows : Rows) (qualifier name : String) : List (List Char) → List Value → List Piece
  | [], _ => []
  | [part], params => (ofChunks (Text.split '?' [] part) params).1
  | part :: parts, params =>
    let (ps, left) := ofChunks (Text.split '?' [] part) params
    ps ++ column rows qualifier name :: ofParts rows qualifier name parts left

/-- The chunks of a template are written as pieces. -/
theorem pushChunks_eq (f : Fragment) (chunks : List (List Char)) (params : List Value) :
    f.pushChunks chunks params =
      (writeAll (ofChunks chunks params).1 f, (ofChunks chunks params).2) := by
  induction chunks generalizing f params with
  | nil => rfl
  | cons chunk chunks ih =>
      cases chunks with
      | nil => rfl
      | cons next chunks =>
          cases params with
          | nil => exact ih ((f.push (String.ofList chunk)).push "?") []
          | cons v params => exact ih ((f.push (String.ofList chunk)).pushParam v) params

/-- So is a template with its columns. -/
theorem pushPieces_eq (f : Fragment) (rows : Rows) (qualifier name : String)
    (parts : List (List Char)) (params : List Value) :
    f.pushPieces qualifier name parts params =
      writeAll (ofParts rows qualifier name parts params) f := by
  induction parts generalizing f params with
  | nil => rfl
  | cons part parts ih =>
      have hpart := pushChunks_eq f (Text.split '?' [] part) params
      cases parts with
      | nil => exact congrArg Prod.fst hpart
      | cons next parts =>
          have hnext (g : Fragment) (left : List Value)
              (h : f.pushChunks (Text.split '?' [] part) params = (g, left)) :
              f.pushPieces qualifier name (part :: next :: parts) params =
                (g.pushColumn qualifier name).pushPieces qualifier name (next :: parts) left := by
            rw [Fragment.pushPieces, h]
            exact nofun
          rw [hnext _ _ hpart, ih]
          exact (writeAll_append _ (column rows qualifier name :: _) f).symm

end Sql.Piece

/-! ## Conditions -/

open Sql (Piece Rows)

/-- The pieces of a condition on the rows of a frame. -/
def Condition.pieces (frame : Frame) (c : Condition) : List Piece :=
  let column := Piece.column (.scope frame.depth) frame.qualifier
  match c with
  | .compare name .eq .null => [column name, .text (nullTest false)]
  | .compare name .ne .null => [column name, .text (nullTest true)]
  | .compare name op value => [column name, .text (" " ++ op.sql ++ " "), .value value]
  | .among name values negated =>
    [column name, .text (" " ++ negation negated ++ "IN (")] ++
      (values.map .value).intersperse (.text ", ") ++ [.text ")"]
  | .null name negated => [column name, .text (nullTest negated)]
  | .between name low high negated =>
    [column name, .text (" " ++ negation negated ++ "BETWEEN "), .value low, .text " AND ",
      .value high]
  | .like name pattern negated =>
    [column name, .text (" " ++ negation negated ++ "LIKE "), .value (.text pattern)]
  | .raw name template params =>
    Piece.ofParts (.scope frame.depth) frame.qualifier name (Sql.columnPieces template) params

/-- Values with commas between them are written as pieces. -/
theorem Sql.Piece.pushParams_eq (f : Fragment) (vs : List Value) :
    f.pushParams vs = writeAll ((vs.map value).intersperse (text ", ")) f := by
  fun_induction Fragment.pushParams f vs with
  | case1 f => rfl
  | case2 f v => rfl
  | case3 f v vs hne ih =>
      obtain ⟨w, vs, rfl⟩ := List.exists_cons_of_ne_nil hne
      rw [ih]
      rfl

/-- A condition is written as its pieces. -/
theorem Condition.render_eq_writeAll (frame : Frame) (c : Condition) (f : Fragment) :
    c.render frame.qualifier f = Piece.writeAll (c.pieces frame) f := by
  fun_cases Condition.pieces frame c with
  | case1 column name => rfl
  | case2 column name => rfl
  | case3 column name op value heq hne => cases op <;> cases value <;> simp_all <;> rfl
  | case4 column name values negated =>
      simp only [render, Piece.writeAll_append, Piece.pushParams_eq]
      rfl
  | case5 column name negated => rfl
  | case6 column name low high negated => rfl
  | case7 column name pattern negated => rfl
  | case8 name template params => exact Piece.pushPieces_eq f _ _ _ _ params

/-! ## Related rows -/

/-- The pieces of a join, up to the tie to the parent row: the tables under their names. -/
def Join.sourcePieces (inner : Frame) (join : Join) : List Piece :=
  [.opening, .table join.relatedTable, .named inner.qualifier (.scope inner.depth)] ++
    match join.link with
    | none => []
    | some link =>
      [.text " INNER JOIN ", .table link.table, .named inner.linkAlias (.link inner.depth),
        .text " ON ", .column (.link inner.depth) inner.linkAlias link.targetColumn,
        .text " = ", .column (.scope inner.depth) inner.qualifier join.relatedColumn]

/-- The pieces of the tie to the parent row. -/
def Join.tiePieces (outer inner : Frame) (join : Join) : List Piece :=
  [match join.link with
    | none => .column (.scope inner.depth) inner.qualifier join.relatedColumn
    | some link => .column (.link inner.depth) inner.linkAlias link.sourceColumn,
    .text " = ", .column (.scope outer.depth) outer.qualifier join.parentColumn]

/-- The beginning of a test for a related row is written as its pieces. -/
theorem Join.render_eq_writeAll (outer inner : Frame) (join : Join) (f : Fragment) :
    join.render outer inner f =
      Piece.writeAll
        (join.sourcePieces inner ++ .text " WHERE " :: join.tiePieces outer inner) f := by
  unfold render sourcePieces tiePieces
  cases join.link <;> rfl

/-! ## Clauses -/

namespace Clause

mutual

/-- The pieces of a clause about the rows of a frame. -/
def pieces (frame : Frame) : Clause → List Piece
  | .condition c => c.pieces frame
  | .related join inner clauses =>
    join.sourcePieces inner ++ .text " WHERE " :: join.tiePieces frame inner ++
      piecesMore inner clauses ++ [.closing]

def piecesMore (frame : Frame) : List Clause → List Piece
  | [] => []
  | c :: cs => .text " AND " :: c.pieces frame ++ piecesMore frame cs

end

/-- The pieces of clauses with `AND` between any two. -/
def piecesOf (frame : Frame) : List Clause → List Piece
  | [] => []
  | c :: cs => c.pieces frame ++ piecesMore frame cs

mutual

/-- A clause is written in its pieces. -/
theorem render_eq_writeAll (frame : Frame) : (c : Clause) → (f : Fragment) →
    c.render frame f = Piece.writeAll (c.pieces frame) f
  | .condition c, f => c.render_eq_writeAll frame f
  | .related join inner clauses, f => by
      rw [render, pieces, renderMore_eq_writeAll, join.render_eq_writeAll]
      simp only [Piece.writeAll_append]
      rfl

/-- So are clauses behind others. -/
theorem renderMore_eq_writeAll (frame : Frame) : (cs : List Clause) → (f : Fragment) →
    renderMore frame cs f = Piece.writeAll (piecesMore frame cs) f
  | [], f => rfl
  | c :: cs, f => by
      rw [renderMore, piecesMore, renderMore_eq_writeAll frame cs, render_eq_writeAll frame c,
        Piece.writeAll_append]
      rfl

end

/-- So are clauses on their own. -/
theorem renderAll_eq_writeAll (frame : Frame) (cs : List Clause) (f : Fragment) :
    renderAll frame cs f = Piece.writeAll (piecesOf frame cs) f := by
  cases cs with
  | nil => rfl
  | cons c cs =>
      rw [renderAll, piecesOf, renderMore_eq_writeAll, render_eq_writeAll, Piece.writeAll_append]

theorem piecesMore_append (frame : Frame) (cs ds : List Clause) :
    piecesMore frame (cs ++ ds) = piecesMore frame cs ++ piecesMore frame ds := by
  induction cs with
  | nil => rfl
  | cons c cs ih => simp [piecesMore, ih]

end Clause

/-! ## Scopes -/

namespace Scope

/-- The pieces of the condition of a scope. -/
def pieces (s : Scope) : List Piece :=
  if s.isEmpty then [.text "TRUE"] else Clause.piecesOf s.frame s.clauses

/-- The condition of a scope is written in its pieces. -/
theorem whereSql_eq (s : Scope) :
    s.whereSql = Piece.writeAll s.pieces (.empty s.frame.dialect) := by
  unfold whereSql pieces
  split
  · rfl
  · exact Clause.renderAll_eq_writeAll _ _ _

/-- So is the statement of a scope that asks for something. -/
theorem selectSql_eq {s : Scope} (h : s.isEmpty = false) :
    s.selectSql = Piece.writeAll
      (.text "SELECT * FROM " :: .table s.frame.table :: .text " WHERE " :: s.pieces)
      (.empty s.frame.dialect) := by
  unfold selectSql pieces
  rw [h]
  exact Clause.renderAll_eq_writeAll _ _ _

/-- The condition of a scope is the text of its pieces. -/
theorem text_whereSql (s : Scope) :
    s.whereSql.text = Piece.textOf s.frame.dialect 0 s.pieces := by
  rw [whereSql_eq, Piece.text_writeAll]
  exact String.empty_append

/-- It binds what they bind. -/
theorem params_whereSql (s : Scope) : s.whereSql.params = Piece.boundBy s.pieces := by
  rw [whereSql_eq, Piece.params_writeAll]
  exact List.nil_append _

/-- The statement of a scope binds what its condition binds. -/
theorem params_selectSql (s : Scope) : s.selectSql.params = s.whereSql.params := by
  cases h : s.isEmpty with
  | true => simp [selectSql, whereSql, h, Fragment.pushIdentifier]
  | false =>
      rw [selectSql_eq h, params_whereSql, Piece.params_writeAll]
      exact List.nil_append _

/-- The statement of a scope that asks for something ends with its condition. -/
theorem text_selectSql {s : Scope} (h : s.isEmpty = false) :
    s.selectSql.text =
      "SELECT * FROM " ++ s.frame.dialect.quoteIdentifier s.frame.table ++ " WHERE " ++
        s.whereSql.text := by
  rw [selectSql_eq h, Piece.text_writeAll, text_whereSql]
  simp [Piece.textOf, Piece.textAt, Piece.bound, Fragment.empty, String.append_assoc]

end Scope

end Sift
