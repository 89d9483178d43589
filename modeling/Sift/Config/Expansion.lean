import Sift.Environment

/-!
# Sift.Config.Expansion

Variables of the environment in configuration texts.  A reference is a dollar sign
with a name in braces.  The references of the text as it was written are taken in
order; each that has a value is replaced by it wherever it stands by then, and one
without a value is left as it is.
-/

namespace Sift.Expansion

/-- The name in braces at the start of a text, and what follows. -/
def named? (s : List Char) : Option (List Char × List Char) :=
  match s.takeWhile (· ≠ '\x7d'), s.dropWhile (· ≠ '\x7d') with
  | c :: cs, _ :: rest => some (c :: cs, rest)
  | _, _ => none

/-- Behind the name of a variable there is less left to read. -/
theorem length_named?_lt {s name rest : List Char} (h : named? s = some (name, rest)) :
    rest.length < s.length := by
  have hd := (List.dropWhile_sublist (fun c => decide (c ≠ '\x7d')) (l := s)).length_le
  unfold named? at h
  split at h
  · rename_i ht hr
    simp only [Option.some.injEq, Prod.mk.injEq] at h
    rw [hr, List.length_cons] at hd
    rw [← h.2]
    omega
  · simp at h

/-- The names that a text refers to, from left to right. -/
def references (s : List Char) : List (List Char) :=
  match s with
  | [] => []
  | '$' :: '\x7b' :: rest =>
    match _h : named? rest with
    | some (name, left) => name :: references left
    | none => references ('\x7b' :: rest)
  | _ :: rest => references rest
termination_by s.length
decreasing_by
  · have := length_named?_lt _h
    simp only [List.length_cons]
    omega
  · simp
  · simp

/-- A text with all references to one variable replaced by its value. -/
def substitute (name value s : List Char) : List Char :=
  Text.replace '$' ('\x7b' :: name ++ ['\x7d']) value s

/-- A text with its references replaced, as far as the variables have values. -/
def expand (env : Environment) (s : String) : String :=
  String.ofList <| (references s.toList).foldl
    (fun cs name =>
      match env.get? (String.ofList name) with
      | some value => substitute name value.toList cs
      | none => cs)
    s.toList

end Sift.Expansion
