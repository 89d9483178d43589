/-!
# Sift.Operator.Pattern

Patterns for texts.  In a LIKE pattern `%` stands for any text and `_` for any
character, and a backslash takes the next character by itself.  In a GLOB pattern
`*` stands for any text, `?` for any character and brackets for one of a class, and
there is no escape; a character is taken by itself in a class of its own.
-/

namespace Sift.Pattern

/-- A character by itself in a GLOB pattern. -/
def globLiteral (c : Char) : List Char :=
  if c = '*' || c = '?' || c = '[' then ['[', c, ']'] else [c]

/-- The GLOB pattern of a LIKE pattern.  A backslash at the end stands for itself. -/
def toGlob : List Char → List Char
  | [] => []
  | ['\\'] => ['\\']
  | '\\' :: c :: rest => globLiteral c ++ toGlob rest
  | '%' :: rest => '*' :: toGlob rest
  | '_' :: rest => '?' :: toGlob rest
  | c :: rest => globLiteral c ++ toGlob rest

end Sift.Pattern
