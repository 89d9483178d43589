import Sift.Sql.Fragment
import Sift.Text.Split

/-!
# Sift.Sql.Template

Writing the template of a condition.  The template is cut at the marks for the
column, and each piece at its question marks, before anything is put in; so what is
put in is never taken for a mark.  A question mark without a parameter left stays
one.
-/

namespace Sift.Sql

/-- The pieces of a template between the marks for the column. -/
def columnPieces (template : String) : List (List Char) :=
  Text.split '\x7b' ['c', 'o', 'l', 'u', 'm', 'n', '\x7d'] template.toList

namespace Fragment

/-- Write the chunks of a piece and bind a parameter between any two.  Also gives the
parameters that are left. -/
def pushChunks (f : Fragment) : List (List Char) → List Value → Fragment × List Value
  | [], params => (f, params)
  | [chunk], params => (f.push (String.ofList chunk), params)
  | chunk :: chunks, [] =>
    ((f.push (String.ofList chunk)).push "?").pushChunks chunks []
  | chunk :: chunks, v :: params =>
    ((f.push (String.ofList chunk)).pushParam v).pushChunks chunks params

/-- Write pieces with the column between any two. -/
def pushPieces (f : Fragment) (qualifier column : String) :
    List (List Char) → List Value → Fragment
  | [], _ => f
  | [piece], params => (f.pushChunks (Text.split '?' [] piece) params).1
  | piece :: pieces, params =>
    let (g, left) := f.pushChunks (Text.split '?' [] piece) params
    (g.pushColumn qualifier column).pushPieces qualifier column pieces left

def pushTemplate (f : Fragment) (qualifier column template : String) (params : List Value) :
    Fragment :=
  f.pushPieces qualifier column (columnPieces template) params

end Fragment

end Sift.Sql
