import Sift.Operator.Pattern

/-!
# Sift.Proofs.Pattern.Matching

Which texts the two kinds of patterns match.

* `Like` — `%` stands for any text and `_` for any character.  Databases differ in which
  characters they take for the same, and in whether a backslash takes the next character by
  itself.
* `Glob` — `*` stands for any text, `?` for any character, and brackets for one character of
  a class.  There is no escape.

Main statements: one lemma for each construct of either kind says what it matches, such as
`like_any_iff` and `glob_any_iff`.
-/

namespace Sift.Pattern

/-! ## LIKE -/

/-- How LIKE patterns are read. -/
structure LikeRules where
  /-- Whether a character of a pattern stands for a character of a text. -/
  same : Char → Char → Prop
  /-- Whether a backslash takes the next character by itself. -/
  escapes : Bool

/-- Characters stand for themselves only, and a backslash takes the next one by itself. -/
def LikeRules.exact : LikeRules := ⟨fun c d => c = d, true⟩

/-- A text matches a LIKE pattern.  A backslash that has nothing to take stands for itself. -/
inductive Like (rules : LikeRules) : List Char → List Char → Prop
  | done : Like rules [] []
  | any {p rest s : List Char} (hrest : rest <:+ s) (h : Like rules p rest) :
      Like rules ('%' :: p) s
  | one {p s : List Char} {d : Char} (h : Like rules p s) : Like rules ('_' :: p) (d :: s)
  | escaped {p s : List Char} {c d : Char} (hescape : rules.escapes) (hsame : rules.same c d)
      (h : Like rules p s) : Like rules ('\\' :: c :: p) (d :: s)
  | last {d : Char} (hescape : rules.escapes) (hsame : rules.same '\\' d) :
      Like rules ['\\'] [d]
  | literal {p s : List Char} {c d : Char} (hany : c ≠ '%') (hone : c ≠ '_')
      (hescape : rules.escapes → c ≠ '\\') (hsame : rules.same c d) (h : Like rules p s) :
      Like rules (c :: p) (d :: s)

section Like

variable {rules : LikeRules} {p s : List Char} {c : Char}

theorem like_nil_iff : Like rules [] s ↔ s = [] := by
  constructor
  · intro h
    cases h
    rfl
  · rintro rfl
    exact .done

/-- A percent sign matches any beginning of a text. -/
theorem like_any_iff : Like rules ('%' :: p) s ↔ ∃ rest, rest <:+ s ∧ Like rules p rest := by
  constructor
  · intro h
    cases h with
    | any hrest h => exact ⟨_, hrest, h⟩
    | literal hany => exact absurd rfl hany
  · rintro ⟨rest, hrest, h⟩
    exact .any hrest h

/-- An underscore matches any one character. -/
theorem like_one_iff : Like rules ('_' :: p) s ↔ ∃ d rest, s = d :: rest ∧ Like rules p rest := by
  constructor
  · intro h
    cases h with
    | one h => exact ⟨_, _, rfl, h⟩
    | literal hany hone => exact absurd rfl hone
  · rintro ⟨d, rest, rfl, h⟩
    exact .one h

/-- With escapes, the character behind a backslash matches itself. -/
theorem like_escaped_iff (hescape : rules.escapes) : Like rules ('\\' :: c :: p) s ↔
    ∃ d rest, s = d :: rest ∧ rules.same c d ∧ Like rules p rest := by
  constructor
  · intro h
    cases h with
    | escaped _ hsame h => exact ⟨_, _, rfl, hsame, h⟩
    | literal hany hone hliteral => exact absurd rfl (hliteral hescape)
  · rintro ⟨d, rest, rfl, hsame, h⟩
    exact .escaped hescape hsame h

/-- A backslash at the end has nothing to escape and matches itself. -/
theorem like_last_iff (hescape : rules.escapes) : Like rules ['\\'] s ↔
    ∃ d rest, s = d :: rest ∧ rules.same '\\' d ∧ Like rules [] rest := by
  constructor
  · intro h
    cases h with
    | last _ hsame => exact ⟨_, [], rfl, hsame, .done⟩
    | literal hany hone hliteral => exact absurd rfl (hliteral hescape)
  · rintro ⟨d, rest, rfl, hsame, h⟩
    obtain rfl := like_nil_iff.mp h
    exact .last hescape hsame

/-- Any other character matches itself. -/
theorem like_literal_iff (hany : c ≠ '%') (hone : c ≠ '_') (hliteral : rules.escapes → c ≠ '\\') :
    Like rules (c :: p) s ↔ ∃ d rest, s = d :: rest ∧ rules.same c d ∧ Like rules p rest := by
  constructor
  · intro h
    cases h with
    | any => exact absurd rfl hany
    | one => exact absurd rfl hone
    | escaped hescape => exact absurd rfl (hliteral hescape)
    | last hescape => exact absurd rfl (hliteral hescape)
    | literal _ _ _ hsame h => exact ⟨_, _, rfl, hsame, h⟩
  · rintro ⟨d, rest, rfl, hsame, h⟩
    exact .literal hany hone hliteral hsame h

end Like

/-! ## Classes of characters -/

/-- The characters in some ranges, or those in none of them. -/
structure CharClass where
  negated : Bool
  ranges : List (Char × Char)
deriving DecidableEq, Repr

/-- Whether a character is of the class. -/
def CharClass.admits (k : CharClass) (c : Char) : Bool :=
  (k.ranges.any fun r => r.1 ≤ c && c ≤ r.2) != k.negated

/-- The ranges up to the closing bracket, and what follows it.  A character is a range of its
own.  A dash between two characters makes them a range, where the first of them does not end
one already. -/
def readRanges : Option Char → List Char → Option (List (Char × Char) × List Char)
  | _, [] => none
  | _, ']' :: rest => some ([], rest)
  | some first, '-' :: last :: rest =>
    if last = ']' then some ([('-', '-')], rest)
    else (readRanges none rest).map fun (ranges, rest) => ((first, last) :: ranges, rest)
  | _, c :: rest =>
    (readRanges (some c) rest).map fun (ranges, rest) => ((c, c) :: ranges, rest)

/-- The ranges of a class, of which a closing bracket in front is one. -/
def readMembers : List Char → Option (List (Char × Char) × List Char)
  | ']' :: rest => (readRanges none rest).map fun (ranges, rest) => ((']', ']') :: ranges, rest)
  | rest => readRanges none rest

/-- The class behind an opening bracket, which a caret in front negates, and what follows the
closing bracket. -/
def readClass : List Char → Option (CharClass × List Char)
  | '^' :: rest => (readMembers rest).map fun (ranges, rest) => (⟨true, ranges⟩, rest)
  | rest => (readMembers rest).map fun (ranges, rest) => (⟨false, ranges⟩, rest)

/-- All but the letters from a to c, and a closing bracket. -/
example : readClass "^]a-c]x".toList =
    some (⟨true, [(']', ']'), ('a', 'a'), ('a', 'c')]⟩, ['x']) := by
  decide

/-! ## GLOB -/

/-- A text matches a GLOB pattern.  A class that is not closed matches nothing. -/
inductive Glob : List Char → List Char → Prop
  | done : Glob [] []
  | any {p rest s : List Char} (hrest : rest <:+ s) (h : Glob p rest) : Glob ('*' :: p) s
  | one {p s : List Char} {d : Char} (h : Glob p s) : Glob ('?' :: p) (d :: s)
  | ofClass {p rest s : List Char} {k : CharClass} {d : Char}
      (hclass : readClass p = some (k, rest)) (hadmits : k.admits d) (h : Glob rest s) :
      Glob ('[' :: p) (d :: s)
  | literal {p s : List Char} {c : Char} (hany : c ≠ '*') (hone : c ≠ '?') (hclass : c ≠ '[')
      (h : Glob p s) : Glob (c :: p) (c :: s)

section Glob

variable {p q s : List Char} {c : Char}

theorem glob_nil_iff : Glob [] s ↔ s = [] := by
  constructor
  · intro h
    cases h
    rfl
  · rintro rfl
    exact .done

/-- An asterisk matches any beginning of a text. -/
theorem glob_any_iff : Glob ('*' :: p) s ↔ ∃ rest, rest <:+ s ∧ Glob p rest := by
  constructor
  · intro h
    cases h with
    | any hrest h => exact ⟨_, hrest, h⟩
    | literal hany => exact absurd rfl hany
  · rintro ⟨rest, hrest, h⟩
    exact .any hrest h

/-- A question mark matches any one character. -/
theorem glob_one_iff : Glob ('?' :: p) s ↔ ∃ d rest, s = d :: rest ∧ Glob p rest := by
  constructor
  · intro h
    cases h with
    | one h => exact ⟨_, _, rfl, h⟩
    | literal hany hone => exact absurd rfl hone
  · rintro ⟨d, rest, rfl, h⟩
    exact .one h

/-- A class matches each of the characters that it admits. -/
theorem glob_class_iff {k : CharClass} (hclass : readClass p = some (k, q)) :
    Glob ('[' :: p) s ↔ ∃ d rest, s = d :: rest ∧ k.admits d ∧ Glob q rest := by
  constructor
  · intro h
    cases h with
    | ofClass hclass' hadmits h =>
        obtain ⟨rfl, rfl⟩ := Prod.mk.inj (Option.some.inj (hclass.symm.trans hclass'))
        exact ⟨_, _, rfl, hadmits, h⟩
    | literal hany hone hliteral => exact absurd rfl hliteral
  · rintro ⟨d, rest, rfl, hadmits, h⟩
    exact .ofClass hclass hadmits h

/-- Any other character matches itself. -/
theorem glob_literal_iff (hany : c ≠ '*') (hone : c ≠ '?') (hclass : c ≠ '[') :
    Glob (c :: p) s ↔ ∃ d rest, s = d :: rest ∧ c = d ∧ Glob p rest := by
  constructor
  · intro h
    cases h with
    | any => exact absurd rfl hany
    | one => exact absurd rfl hone
    | ofClass => exact absurd rfl hclass
    | literal _ _ _ h => exact ⟨c, _, rfl, rfl, h⟩
  · rintro ⟨d, rest, rfl, rfl, h⟩
    exact .literal hany hone hclass h

end Glob

end Sift.Pattern
