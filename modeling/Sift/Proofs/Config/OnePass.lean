import Sift.Config.Expansion

/-!
# Sift.Proofs.Config.OnePass

Reading a text with references once, from left to right.  The text is cut into its references
and the characters beside them.  A reference is read as the value of its variable, or as it is
written where the variable has none, and the other characters are read as they are.

Main statements:

* `named?_eq_some_iff` — where a reference ends;
* `written_parts` — the parts of a text make up the text;
* `references_eq` — the variables that a text refers to are those of its parts.
-/

namespace Sift.Expansion

/-! ## The parts of a text -/

/-- A reference to a variable or a character beside the references. -/
inductive Part where
  | plain (c : Char)
  | reference (name : List Char)
deriving DecidableEq, Repr

/-- A reference up to its closing brace. -/
def opened (name : List Char) : List Char := '$' :: '\x7b' :: name

/-- A reference as it is written. -/
def written (name : List Char) : List Char := opened name ++ ['\x7d']

/-- The references of a text from left to right, each as far to the left as it can stand, and
the characters beside them. -/
def parts (s : List Char) : List Part :=
  match s with
  | [] => []
  | '$' :: '\x7b' :: rest =>
    match _h : named? rest with
    | some (name, left) => .reference name :: parts left
    | none => .plain '$' :: parts ('\x7b' :: rest)
  | c :: rest => .plain c :: parts rest
termination_by s.length
decreasing_by
  · have := length_named?_lt _h
    simp only [List.length_cons]
    omega
  · simp
  · simp

/-- What a part is read as, by the values of variables. -/
def Part.text (values : List Char → Option (List Char)) : Part → List Char
  | .plain c => [c]
  | .reference name => (values name).getD (written name)

/-- What parts are read as one after another. -/
def render (values : List Char → Option (List Char)) (ps : List Part) : List Char :=
  ps.flatMap (Part.text values)

theorem render_cons (values : List Char → Option (List Char)) (part : Part) (ps : List Part) :
    render values (part :: ps) = part.text values ++ render values ps := rfl

/-- The variable that a part refers to. -/
def Part.name? : Part → Option (List Char)
  | .plain _ => none
  | .reference name => some name

theorem ne_brace_of_mem {s : List Char} (h : '\x7d' ∉ s) :
    ∀ c ∈ s, decide (c ≠ '\x7d') = true :=
  fun _ hc => decide_eq_true fun heq => h (heq ▸ hc)

/-- The name of a variable ends at the first closing brace. -/
theorem takeWhile_append_brace {s : List Char} (h : '\x7d' ∉ s) (rest : List Char) :
    (s ++ '\x7d' :: rest).takeWhile (· ≠ '\x7d') = s := by
  rw [List.takeWhile_append_of_pos (ne_brace_of_mem h)]
  simp

/-- What stands before the first closing brace is determined. -/
theorem eq_of_append_brace {s t x y : List Char} (hs : '\x7d' ∉ s) (ht : '\x7d' ∉ t)
    (h : s ++ '\x7d' :: x = t ++ '\x7d' :: y) : s = t := by
  rw [← takeWhile_append_brace hs x, h, takeWhile_append_brace ht]

/-- The name in braces is what stands before the first closing brace, if anything does. -/
theorem named?_eq_some_iff {s name rest : List Char} :
    named? s = some (name, rest) ↔ name ≠ [] ∧ '\x7d' ∉ name ∧ s = name ++ '\x7d' :: rest := by
  constructor
  · intro h
    unfold named? at h
    split at h
    · next c cs brace left hname hleft =>
        obtain ⟨rfl, rfl⟩ := Prod.mk.inj (Option.some.inj h)
        have hbrace : brace = '\x7d' := by
          have hhead := List.head?_dropWhile_not (fun c => decide (c ≠ '\x7d')) s
          rw [hleft] at hhead
          simpa using hhead
        subst hbrace
        refine ⟨List.cons_ne_nil _ _, fun hmem => ?_, ?_⟩
        · have hall := List.all_takeWhile (p := fun c => decide (c ≠ '\x7d')) (l := s)
          rw [hname, List.all_eq_true] at hall
          simpa using hall _ hmem
        · rw [← hname, ← hleft, List.takeWhile_append_dropWhile]
    · cases h
  · rintro ⟨hne, hbrace, rfl⟩
    have hleft : (name ++ '\x7d' :: rest).dropWhile (· ≠ '\x7d') = '\x7d' :: rest := by
      rw [List.dropWhile_append_of_pos (ne_brace_of_mem hbrace)]
      simp
    unfold named?
    rw [takeWhile_append_brace hbrace, hleft]
    cases name with
    | nil => exact absurd rfl hne
    | cons c cs => rfl

/-- A character that begins no reference is a part of its own. -/
theorem parts_plain {c : Char} (h : c ≠ '$') (s : List Char) :
    parts (c :: s) = .plain c :: parts s := by
  rw [parts]
  exact fun _ hc => absurd hc h

/-- The parts of a text make up the text. -/
theorem written_parts (s : List Char) : render (fun _ => none) (parts s) = s := by
  fun_induction parts s with
  | case1 => rfl
  | case2 rest name left h ih =>
      obtain ⟨-, -, rfl⟩ := named?_eq_some_iff.mp h
      rw [render_cons, ih]
      simp [Part.text, written, opened]
  | case3 rest h ih => rw [render_cons, ih]; rfl
  | case4 c rest h ih => rw [render_cons, ih]; rfl

/-- The variables that a text refers to are those of its parts. -/
theorem references_eq (s : List Char) : references s = (parts s).filterMap Part.name? := by
  fun_induction parts s with
  | case1 => rw [references]; rfl
  | case2 rest name left h ih =>
      rw [references]
      split
      · next h' =>
          cases h'.symm.trans h
          rw [ih, List.filterMap_cons]
          rfl
      · next h' => cases h'.symm.trans h
  | case3 rest h ih =>
      rw [references]
      split
      · next h' => cases h'.symm.trans h
      · rw [ih, List.filterMap_cons]
        rfl
  | case4 c rest h ih =>
      rw [references, ih, List.filterMap_cons]
      · rfl
      · exact h

/-- The references of a text are those among its parts. -/
theorem mem_references_iff {s name : List Char} :
    name ∈ references s ↔ .reference name ∈ parts s := by
  rw [references_eq, List.mem_filterMap]
  constructor
  · rintro ⟨part, hpart, hname⟩
    cases part with
    | plain c => cases hname
    | reference other =>
        cases hname
        exact hpart
  · exact fun h => ⟨_, h, rfl⟩

/-- No reference has an empty name, or one with a closing brace. -/
theorem named_of_reference {s name : List Char} (h : .reference name ∈ parts s) :
    name ≠ [] ∧ '\x7d' ∉ name := by
  fun_induction parts s with
  | case1 => cases h
  | case2 rest n left hn ih =>
      obtain heq | h := List.mem_cons.mp h
      · cases heq
        exact (named?_eq_some_iff.mp hn).imp_right And.left
      · exact ih h
  | case3 rest hn ih =>
      obtain heq | h := List.mem_cons.mp h
      · cases heq
      · exact ih h
  | case4 c rest hn ih =>
      obtain heq | h := List.mem_cons.mp h
      · cases heq
      · exact ih h

/-! ## Reading a text once -/

def valueOf (env : Environment) (name : List Char) : Option (List Char) :=
  (env.get? (String.ofList name)).map String.toList

/-- A text read once from left to right, each reference as the value of its variable where it
has one, and everything else as it is written. -/
def onePass (env : Environment) (s : String) : String :=
  String.ofList (render (valueOf env) (parts s.toList))

end Sift.Expansion
