/-!
# Sift.Operator

The built-in operators and the symbols they are registered under by default.

Main statement: `ofSymbol?_symbol` — each operator is found by its symbol, so the
symbols are distinct.
-/

namespace Sift

/-- A built-in operator. -/
inductive Operator where
  | equals
  | equalsCaseSensitive
  | notEquals
  | lessThan
  | lessOrEqual
  | greaterThan
  | greaterOrEqual
  | isIn
  | notIn
  | null
  | notNull
  | between
  | notBetween
  | like
  | likeCaseSensitive
  | contains
  | notContains
  | containsCaseSensitive
  | notContainsCaseSensitive
  | startsWith
  | startsWithCaseSensitive
  | endsWith
  | endsWithCaseSensitive
deriving DecidableEq, Repr

namespace Operator

/-- Every operator, in the order of default registration. -/
def all : List Operator :=
  [.equals, .equalsCaseSensitive, .notEquals, .lessThan, .lessOrEqual, .greaterThan,
   .greaterOrEqual, .isIn, .notIn, .null, .notNull, .between, .notBetween, .like,
   .likeCaseSensitive, .contains, .notContains, .containsCaseSensitive,
   .notContainsCaseSensitive, .startsWith, .startsWithCaseSensitive, .endsWith,
   .endsWithCaseSensitive]

/-- No operator is left out. -/
theorem mem_all (op : Operator) : op ∈ all := by cases op <;> decide

def symbol : Operator → String
  | .equals => "$eq"
  | .equalsCaseSensitive => "$eqc"
  | .notEquals => "$ne"
  | .lessThan => "$lt"
  | .lessOrEqual => "$lte"
  | .greaterThan => "$gt"
  | .greaterOrEqual => "$gte"
  | .isIn => "$in"
  | .notIn => "$notIn"
  | .null => "$null"
  | .notNull => "$notNull"
  | .between => "$between"
  | .notBetween => "$notBetween"
  | .like => "$like"
  | .likeCaseSensitive => "$likec"
  | .contains => "$contains"
  | .notContains => "$notContains"
  | .containsCaseSensitive => "$containsc"
  | .notContainsCaseSensitive => "$notContainsc"
  | .startsWith => "$startsWith"
  | .startsWithCaseSensitive => "$startsWithc"
  | .endsWith => "$endsWith"
  | .endsWithCaseSensitive => "$endsWithc"

/-- The operator of a default symbol. -/
def ofSymbol? (s : String) : Option Operator := all.find? (·.symbol = s)

/-- Every operator is found under its default symbol. -/
theorem ofSymbol?_symbol (op : Operator) : ofSymbol? op.symbol = some op := by
  cases op <;> decide

/-- A symbol found is the symbol of what it names. -/
theorem symbol_of_ofSymbol? {s : String} {op : Operator} (h : ofSymbol? s = some op) :
    op.symbol = s := by
  simpa using List.find?_some h

def label : Operator → String
  | .equals => "Equals"
  | .equalsCaseSensitive => "EqualsCaseSensitive"
  | .notEquals => "NotEquals"
  | .lessThan => "LessThan"
  | .lessOrEqual => "LessOrEqual"
  | .greaterThan => "GreaterThan"
  | .greaterOrEqual => "GreaterOrEqual"
  | .isIn => "In"
  | .notIn => "NotIn"
  | .null => "Null"
  | .notNull => "NotNull"
  | .between => "Between"
  | .notBetween => "NotBetween"
  | .like => "Like"
  | .likeCaseSensitive => "LikeCaseSensitive"
  | .contains => "Contains"
  | .notContains => "NotContains"
  | .containsCaseSensitive => "ContainsCaseSensitive"
  | .notContainsCaseSensitive => "NotContainsCaseSensitive"
  | .startsWith => "StartsWith"
  | .startsWithCaseSensitive => "StartsWithCaseSensitive"
  | .endsWith => "EndsWith"
  | .endsWithCaseSensitive => "EndsWithCaseSensitive"

/-- Whether the operator tells large letters from small ones, which no portable SQL
does. -/
def isCaseSensitive : Operator → Bool
  | .equalsCaseSensitive | .likeCaseSensitive | .containsCaseSensitive
  | .notContainsCaseSensitive | .startsWithCaseSensitive | .endsWithCaseSensitive => true
  | _ => false

end Operator

end Sift
