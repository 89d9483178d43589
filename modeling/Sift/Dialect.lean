import Sift.Text.Case

/-!
# Sift.Dialect

The SQL dialects that statements are written in.  Engines without a dialect of
their own here are kept by their name in lower case; they fail only where an
operator has no portable form.
-/

namespace Sift

/-- The dialect of a storage engine. -/
inductive Dialect where
  | postgres
  | mysql
  | sqlite
  | mssql
  | other (name : String)
deriving DecidableEq, Repr

namespace Dialect

instance : Inhabited Dialect := ⟨.postgres⟩

/-- The names by which a dialect may be asked for, in lower case. -/
def known : List (String × Dialect) :=
  [("postgres", .postgres), ("postgresql", .postgres), ("pgsql", .postgres),
   ("mysql", .mysql), ("mariadb", .mysql),
   ("sqlite", .sqlite), ("sqlite3", .sqlite),
   ("mssql", .mssql), ("sqlserver", .mssql), ("sqlsrv", .mssql)]

/-- The dialect of a name, in letters of any case. -/
def ofName (name : String) : Dialect :=
  let lower := Text.lowercase name
  (known.lookup lower).getD (.other lower)

def name : Dialect → String
  | .postgres => "postgres"
  | .mysql => "mysql"
  | .sqlite => "sqlite"
  | .mssql => "mssql"
  | .other name => name

/-- What stands for the parameter of a number, counted from one. -/
def placeholder (d : Dialect) (number : Nat) : String :=
  match d with
  | .postgres => "$" ++ toString number
  | .mssql => "@P" ++ toString number
  | .mysql | .sqlite | .other _ => "?"

/-! ## Delimiters of identifiers -/

/-- The mark before a delimited identifier. -/
def opening : Dialect → Char
  | .mysql => '\x60'
  | .mssql => '['
  | _ => '"'

/-- The mark after a delimited identifier; inside, it is written twice. -/
def closing : Dialect → Char
  | .mysql => '\x60'
  | .mssql => ']'
  | _ => '"'

end Dialect

end Sift
