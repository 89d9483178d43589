import Sift.Text.Case

/-!
# Sift.Catalog.Naming

Names of tables and columns that are derived from names of models and relations:
`BlogPost` has the table `blog_posts`, and is referred to by `blog_post_id`.
-/

namespace Sift.Naming

/-- Characters in lower case, with an underscore before each capital. -/
def separated : List Char → List Char
  | [] => []
  | c :: cs => (if Text.isCapital c then '_' :: Text.lowerChar c else [c]) ++ separated cs

/-- Words joined by underscores: every capital but the first starts a word. -/
def snakeCase (name : String) : String :=
  match name.toList with
  | [] => ""
  | c :: cs =>
    String.ofList ((if Text.isCapital c then Text.lowerChar c else [c]) ++ separated cs)

def table (model : String) : String := snakeCase model ++ "s"

/-- The column that refers to a row by the name of its model or relation. -/
def reference (name : String) : String := snakeCase name ++ "_id"

/-- The link table of two models: their names in order. -/
def linkTable (a b : String) : String :=
  let x := snakeCase a
  let y := snakeCase b
  if y < x then y ++ "_" ++ x else x ++ "_" ++ y

end Sift.Naming
