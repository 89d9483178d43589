import Sift.Scope
import Sift.Sql.Template

/-!
# Sift.Scope.Render

Scopes as SQL.  Clauses are joined by `AND`; a clause about related rows becomes an
`EXISTS` with the tie to the parent row in front of its own clauses.

`Scope.whereSql` writes the condition of a scope and `Scope.selectSql` a whole
statement; both bind the same parameters.
-/

namespace Sift

open Sql (Fragment)

/-! ## Conditions -/

/-- The word for a negated test, with the blank after it. -/
def negation (negated : Bool) : String := if negated then "NOT " else ""

def nullTest (negated : Bool) : String := " IS " ++ negation negated ++ "NULL"

/-- A condition on a column of the qualified rows.  Equality with null is a test for
null. -/
def Condition.render (qualifier : String) (c : Condition) (f : Fragment) : Fragment :=
  match c with
  | .compare column .eq .null => (f.pushColumn qualifier column).push (nullTest false)
  | .compare column .ne .null => (f.pushColumn qualifier column).push (nullTest true)
  | .compare column op value =>
    ((f.pushColumn qualifier column).push (" " ++ op.sql ++ " ")).pushParam value
  | .among column values negated =>
    let g := (f.pushColumn qualifier column).push (" " ++ negation negated ++ "IN (")
    (g.pushParams values).push ")"
  | .null column negated => (f.pushColumn qualifier column).push (nullTest negated)
  | .between column low high negated =>
    let g := (f.pushColumn qualifier column).push (" " ++ negation negated ++ "BETWEEN ")
    ((g.pushParam low).push " AND ").pushParam high
  | .like column pattern negated =>
    let g := (f.pushColumn qualifier column).push (" " ++ negation negated ++ "LIKE ")
    g.pushParam (.text pattern)
  | .raw column template params => f.pushTemplate qualifier column template params

/-! ## Related rows -/

/-- The name of a link table beside the rows it leads to. -/
def Frame.linkAlias (f : Frame) : String := f.qualifier ++ "_pivot"

/-- The beginning of a test for a related row, up to the tie to the parent row. -/
def Join.render (outer inner : Frame) (join : Join) (f : Fragment) : Fragment :=
  let f := (f.push "EXISTS (SELECT 1 FROM ").pushIdentifier join.relatedTable
  let f := (f.push " AS ").pushIdentifier inner.qualifier
  match join.link with
  | none =>
    let f := (f.push " WHERE ").pushColumn inner.qualifier join.relatedColumn
    (f.push " = ").pushColumn outer.qualifier join.parentColumn
  | some link =>
    let f := (f.push " INNER JOIN ").pushIdentifier link.table
    let f := (f.push " AS ").pushIdentifier inner.linkAlias
    let f := (f.push " ON ").pushColumn inner.linkAlias link.targetColumn
    let f := (f.push " = ").pushColumn inner.qualifier join.relatedColumn
    let f := (f.push " WHERE ").pushColumn inner.linkAlias link.sourceColumn
    (f.push " = ").pushColumn outer.qualifier join.parentColumn

/-! ## Clauses -/

mutual

/-- A clause about the rows of a frame. -/
def Clause.render (frame : Frame) : Clause → Fragment → Fragment
  | .condition c, f => c.render frame.qualifier f
  | .related join inner clauses, f =>
    (Clause.renderMore inner clauses (join.render frame inner f)).push ")"

/-- Further clauses, each after an `AND`. -/
def Clause.renderMore (frame : Frame) : List Clause → Fragment → Fragment
  | [], f => f
  | c :: cs, f => Clause.renderMore frame cs (c.render frame (f.push " AND "))

end

/-- Clauses with `AND` between any two. -/
def Clause.renderAll (frame : Frame) : List Clause → Fragment → Fragment
  | [], f => f
  | c :: cs, f => Clause.renderMore frame cs (c.render frame f)

/-! ## Scopes -/

namespace Scope

/-- The condition of a scope; `TRUE` if it asks for nothing. -/
def whereSql (s : Scope) : Fragment :=
  let f := Fragment.empty s.frame.dialect
  if s.isEmpty then f.push "TRUE" else Clause.renderAll s.frame s.clauses f

/-- The statement that selects the rows of a scope. -/
def selectSql (s : Scope) : Fragment :=
  let f := (Fragment.empty s.frame.dialect).push "SELECT * FROM "
  let f := f.pushIdentifier s.frame.table
  if s.isEmpty then f else Clause.renderAll s.frame s.clauses (f.push " WHERE ")

end Scope

end Sift
