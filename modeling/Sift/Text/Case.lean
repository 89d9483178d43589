import Sift.Text.CaseTable

/-!
# Sift.Text.Case

Lower-casing of letters of every script.

* `lowerChar` maps one character; only the capital dotted I becomes two.
* `lowercase` maps a text, where a capital sigma that ends a word takes its final
  form.
* `asciiLowercase` maps the twenty-six letters of ASCII and leaves the rest.
-/

namespace Sift.Text

/-! ## Single characters -/

/-- The place of the lower-case form, if the run covers the place. -/
def CaseRun.lower? (run : CaseRun) (place : Nat) : Option Nat :=
  if run.first ≤ place && place ≤ run.last && (place - run.first) % run.step = 0 then
    some (place + run.shift).toNat
  else
    none

/-- The lower-case form of a character, by itself if it has none. -/
def lowerChar (c : Char) : List Char :=
  if c.toNat < 128 then
    [c.toLower]
  else if c = 'İ' then
    ['i', '\u0307']
  else
    match lowerRuns.findSome? (·.lower? c.toNat) with
    | some place => [Char.ofNat place]
    | none => [c]

def isCapital (c : Char) : Bool :=
  if c.toNat < 128 then
    c.isUpper
  else
    (lowerChar c ≠ [c] && !inTable titlecase c) || inTable unpairedCapitals c

/-! ## Texts -/

/-- Whether the first character that is not passed over is a cased letter. -/
def startsCased (cs : List Char) : Bool :=
  match cs.dropWhile (inTable caseIgnorable) with
  | [] => false
  | c :: _ => inTable cased c

/-- Lower-case characters in turn; `before` holds those already passed, the nearest
first. -/
def lowerFrom (before : List Char) : List Char → List Char
  | [] => []
  | c :: after =>
    let lower :=
      if c = 'Σ' then
        [if startsCased before && !startsCased after then 'ς' else 'σ']
      else
        lowerChar c
    lower ++ lowerFrom (c :: before) after

def lowercase (s : String) : String := String.ofList (lowerFrom [] s.toList)

def asciiLowercase (s : String) : String := String.ofList (s.toList.map Char.toLower)

end Sift.Text
