import Sift.Value

/-!
# Sift.Condition

Conditions on one column.  A condition knows nothing about relations; it is put
into the scope whose rows it is about.
-/

namespace Sift

/-- The ways to compare a column with one value. -/
inductive Comparison where
  | eq | ne | lt | le | gt | ge
deriving DecidableEq, Repr

namespace Comparison

def sql : Comparison → String
  | .eq => "="
  | .ne => "<>"
  | .lt => "<"
  | .le => "<="
  | .gt => ">"
  | .ge => ">="

def all : List Comparison := [.eq, .ne, .lt, .le, .gt, .ge]

/-- The comparison that an operator of SQL writes. -/
def ofSql? (s : String) : Option Comparison := all.find? (·.sql = s)

/-- A comparison is read back from its sign. -/
theorem ofSql?_sql (c : Comparison) : ofSql? c.sql = some c := by cases c <;> decide

def inspect : Comparison → String
  | .eq => "Eq"
  | .ne => "Ne"
  | .lt => "Lt"
  | .le => "Lte"
  | .gt => "Gt"
  | .ge => "Gte"

end Comparison

/-- A condition on a single column. -/
inductive Condition where
  /-- The column compares with a value. -/
  | compare (column : String) (op : Comparison) (value : Value)
  /-- The column is one of the values, or none of them. -/
  | among (column : String) (values : List Value) (negated : Bool)
  /-- The column is null, or is not. -/
  | null (column : String) (negated : Bool)
  /-- The column lies between two values, or outside of them. -/
  | between (column : String) (low high : Value) (negated : Bool)
  /-- The column matches a pattern with the wildcards `%` and `_`, or does not. -/
  | like (column : String) (pattern : String) (negated : Bool)
  /-- A template in which the column goes at each `Condition.columnMark`, and one
  parameter at each question mark. -/
  | raw (column : String) (template : String) (params : List Value)
deriving Repr

namespace Condition

/-- Where the column goes in a template. -/
def columnMark : String := "\x7bcolumn\x7d"

/-! ## Common conditions -/

def equals (column : String) (value : Value) : Condition := .compare column .eq value

def isIn (column : String) (values : List Value) : Condition := .among column values false

def isNull (column : String) : Condition := .null column false

/-! ## Looking inside -/

def column : Condition → String
  | .compare column _ _ | .among column _ _ | .null column _ | .between column _ _ _
  | .like column _ _ | .raw column _ _ => column

def inspect : Condition → String
  | .compare column op value => Inspect.record "Compare"
      [("column", Inspect.text column), ("op", op.inspect), ("value", value.inspect)]
  | .among column values negated => Inspect.record "In"
      [("column", Inspect.text column), ("values", Inspect.list (Value.inspectItems values)),
       ("negated", Inspect.flag negated)]
  | .null column negated => Inspect.record "Null"
      [("column", Inspect.text column), ("negated", Inspect.flag negated)]
  | .between column low high negated => Inspect.record "Between"
      [("column", Inspect.text column), ("low", low.inspect), ("high", high.inspect),
       ("negated", Inspect.flag negated)]
  | .like column pattern negated => Inspect.record "Like"
      [("column", Inspect.text column), ("pattern", Inspect.text pattern),
       ("negated", Inspect.flag negated)]
  | .raw column template params => Inspect.record "Raw"
      [("column", Inspect.text column), ("sql", Inspect.text template),
       ("params", Inspect.list (Value.inspectItems params))]

end Condition

end Sift
