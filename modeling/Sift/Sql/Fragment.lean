import Sift.Sql.Identifier
import Sift.Value

/-!
# Sift.Sql.Fragment

Statements under construction: the text so far, and the values bound to the
placeholders in it.  Placeholders are numbered from one in the order in which they
are written.

Main statement: `params_pushParams` — values are bound in the order in which they are
given.
-/

namespace Sift.Sql

/-- Text in a dialect together with the parameters of its placeholders. -/
structure Fragment where
  dialect : Dialect
  text : String
  params : List Value

namespace Fragment

def empty (d : Dialect) : Fragment := ⟨d, "", []⟩

/-- Write text as it stands. -/
def push (f : Fragment) (sql : String) : Fragment := { f with text := f.text ++ sql }

/-- Bind a value to the next placeholder. -/
def pushParam (f : Fragment) (v : Value) : Fragment :=
  { f with
    text := f.text ++ f.dialect.placeholder (f.params.length + 1)
    params := f.params ++ [v] }

def pushIdentifier (f : Fragment) (name : String) : Fragment :=
  f.push (f.dialect.quoteIdentifier name)

def pushColumn (f : Fragment) (qualifier column : String) : Fragment :=
  ((f.pushIdentifier qualifier).push ".").pushIdentifier column

/-- Bind values in turn with commas between their placeholders. -/
def pushParams (f : Fragment) : List Value → Fragment
  | [] => f
  | [v] => f.pushParam v
  | v :: vs => ((f.pushParam v).push ", ").pushParams vs

/-! ## What is written and bound -/

@[simp] theorem text_push (f : Fragment) (sql : String) : (f.push sql).text = f.text ++ sql := rfl

@[simp] theorem params_push (f : Fragment) (sql : String) : (f.push sql).params = f.params := rfl

@[simp] theorem dialect_push (f : Fragment) (sql : String) : (f.push sql).dialect = f.dialect := rfl

@[simp] theorem text_pushParam (f : Fragment) (v : Value) :
    (f.pushParam v).text = f.text ++ f.dialect.placeholder (f.params.length + 1) := rfl

@[simp] theorem params_pushParam (f : Fragment) (v : Value) :
    (f.pushParam v).params = f.params ++ [v] := rfl

@[simp] theorem dialect_pushParam (f : Fragment) (v : Value) :
    (f.pushParam v).dialect = f.dialect := rfl

theorem text_pushColumn (f : Fragment) (qualifier column : String) :
    (f.pushColumn qualifier column).text = f.text ++
      (f.dialect.quoteIdentifier qualifier ++ "." ++ f.dialect.quoteIdentifier column) := by
  simp only [pushColumn, pushIdentifier, text_push, dialect_push, String.append_assoc]

/-- Names bind nothing. -/
@[simp] theorem params_pushColumn (f : Fragment) (qualifier column : String) :
    (f.pushColumn qualifier column).params = f.params := rfl

@[simp] theorem dialect_pushColumn (f : Fragment) (qualifier column : String) :
    (f.pushColumn qualifier column).dialect = f.dialect := rfl

/-- Every value is bound, in order. -/
theorem params_pushParams (f : Fragment) (vs : List Value) :
    (f.pushParams vs).params = f.params ++ vs := by
  fun_induction pushParams f vs with
  | case1 => simp
  | case2 f v => simp
  | case3 f v vs _ ih => simp [ih]

end Fragment

end Sift.Sql
