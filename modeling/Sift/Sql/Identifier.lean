import Sift.Dialect

/-!
# Sift.Sql.Identifier

Names of tables and columns as they stand in a statement: bare where the name is
plain and not reserved, and between the dialect's delimiters otherwise.

Main statements:

* `undouble_double` — the name can be read back from between the delimiters;
* `double_injective` — different names are written differently there.
-/

namespace Sift

namespace Sql

/-! ## When a name is plain -/

/-- Words of the language, which never stand bare as names. -/
def reserved : List String :=
  ["user", "order", "group", "select", "from", "where", "table", "index", "key", "primary",
   "foreign", "check", "default", "null", "not", "and", "or", "in", "is", "like", "between",
   "case", "when", "then", "else", "end", "as", "on", "join", "left", "right", "inner", "outer",
   "cross", "natural", "using", "limit", "offset", "union", "intersect", "except", "all",
   "distinct", "having", "create", "alter", "drop", "insert", "update", "delete", "into",
   "values", "set", "returning", "exists"]

/-- A character that may stand in a bare name: a letter or digit of ASCII, or the
underscore. -/
def isBare (c : Char) : Bool := c.isAlphanum || c = '_'

/-- Whether a name has to stand between delimiters. -/
def needsQuoting (name : String) : Bool :=
  reserved.contains (Text.lowercase name) || !name.toList.all isBare

theorem all_isBare_of_needsQuoting {name : String} (h : needsQuoting name = false) :
    name.toList.all isBare = true := by
  rw [needsQuoting, Bool.or_eq_false_iff, Bool.not_eq_false'] at h
  exact h.2

/-! ## Delimited names -/

/-- A text with every occurrence of a mark written twice. -/
def double (mark : Char) (s : List Char) : List Char :=
  s.flatMap fun c => if c = mark then [mark, mark] else [c]

/-- The text up to the first mark that is not written twice, read back, and what
follows that mark. -/
def undouble (mark : Char) : List Char → Option (List Char × List Char)
  | [] => none
  | [c] => if c = mark then some ([], []) else none
  | c :: d :: rest =>
    if c ≠ mark then
      (undouble mark (d :: rest)).map fun r => (c :: r.1, r.2)
    else if d = mark then
      (undouble mark rest).map fun r => (mark :: r.1, r.2)
    else
      some ([], d :: rest)

theorem double_cons (mark c : Char) (s : List Char) :
    double mark (c :: s) = (if c = mark then [mark, mark] else [c]) ++ double mark s := rfl

/-- What is between the delimiters reads back, whatever follows the closing one, as
long as that is not the mark again. -/
theorem undouble_double (mark : Char) (s rest : List Char) (h : rest.head? ≠ some mark) :
    undouble mark (double mark s ++ mark :: rest) = some (s, rest) := by
  induction s with
  | nil =>
      cases rest with
      | nil => simp [double, undouble]
      | cons d ds =>
          simp only [List.head?_cons, ne_eq, Option.some.injEq] at h
          simp [double, undouble, h]
  | cons c s ih =>
      by_cases hc : c = mark
      · subst hc
        simp [double_cons, undouble, ih]
      · rw [double_cons, if_neg hc, List.cons_append, List.nil_append, List.cons_append]
        generalize ht : double mark s ++ mark :: rest = t at ih ⊢
        cases t with
        | nil => simp at ht
        | cons d ds => simp [undouble, hc, ih]

/-- Different texts are written differently. -/
theorem double_injective {mark : Char} {s t : List Char} (h : double mark s = double mark t) :
    s = t := by
  have hs := undouble_double mark s [] (by simp)
  have ht := undouble_double mark t [] (by simp)
  rw [h, ht] at hs
  simpa using hs.symm

end Sql

namespace Dialect

/-- A name between the dialect's delimiters. -/
def escapeIdentifier (d : Dialect) (name : String) : String :=
  String.ofList (d.opening :: Sql.double d.closing name.toList ++ [d.closing])

/-- A name, between delimiters if it needs them. -/
def quoteIdentifier (d : Dialect) (name : String) : String :=
  if Sql.needsQuoting name then d.escapeIdentifier name else name

end Dialect

end Sift
