import Sift.Proofs.Scope.Regular

/-!
# Sift.Proofs.Scope.Signs

Statements as an engine has them before it: the tokens of the text, with the values that are
bound in the places of the placeholders.  No placeholder is counted any more, so what is
written for a piece is the same wherever it stands.

Main statements:

* `signsOf_eq_of_textOf_eq` — the text and the bound values of pieces decide their signs;
* `nameSigns_append_inj` — a name can be told from its signs, if what stands behind it is no
  name.
-/

namespace Sift

namespace Sql

/-- A token, or the value in place of a placeholder. -/
inductive Sign where
  | token (t : Token)
  | value (v : Value)

namespace Sign

@[match_pattern] abbrev word (text : String) : Sign := .token (.word text)

@[match_pattern] abbrev mark (c : Char) : Sign := .token (.mark c)

@[match_pattern] abbrev operator (text : String) : Sign := .token (.operator text)

end Sign

/-! ## Values in their places -/

/-- Tokens with values in the places of their placeholders, in turn. -/
def fill : List Token → List Value → List Sign
  | [], _ => []
  | .placeholder _ :: ts, v :: vs => .value v :: fill ts vs
  | t :: ts, vs => .token t :: fill ts vs

/-- Tokens without placeholders take no values. -/
theorem fill_append {ts : List Token} (h : placeholders ts = []) (us : List Token)
    (vs : List Value) : fill (ts ++ us) vs = ts.map .token ++ fill us vs := by
  induction ts with
  | nil => rfl
  | cons t ts ih =>
      rw [placeholders, List.filterMap_eq_nil_iff, List.forall_mem_cons] at h
      have hrest := ih (List.filterMap_eq_nil_iff.mpr h.2)
      cases t with
      | placeholder text => cases h.1
      | word | name | literal | operator | mark =>
          rw [List.cons_append, fill, hrest]
          · rfl
          · exact nofun

namespace Piece

/-- The signs of a piece. -/
def signs (d : Dialect) : Piece → List Sign
  | value v => [.value v]
  | p => (p.tokens d 0).map .token

def signsOf (d : Dialect) (ps : List Piece) : List Sign := ps.flatMap (signs d)

@[simp] theorem signsOf_nil (d : Dialect) : signsOf d [] = [] := rfl

@[simp] theorem signsOf_cons (d : Dialect) (p : Piece) (ps : List Piece) :
    signsOf d (p :: ps) = p.signs d ++ signsOf d ps := rfl

@[simp] theorem signsOf_append (d : Dialect) (ps qs : List Piece) :
    signsOf d (ps ++ qs) = signsOf d ps ++ signsOf d qs := List.flatMap_append

/-- Between values stand commas. -/
theorem signsOf_values (d : Dialect) (v w : Value) (vs : List Value) :
    signsOf d (((v :: w :: vs).map .value).intersperse (.text ", ")) =
      .value v :: .mark ',' :: signsOf d (((w :: vs).map .value).intersperse (.text ", ")) := by
  simp [signs, tokens]

/-- The tokens of pieces with the values that they bind are their signs. -/
theorem fill_tokensOf {d : Dialect} {ps : List Piece} (h : ∀ p ∈ ps, p.Settled d) (n : Nat) :
    fill (tokensOf d n ps) (boundBy ps) = signsOf d ps := by
  induction ps generalizing n with
  | nil => rfl
  | cons p ps ih =>
      rw [List.forall_mem_cons] at h
      have hrest := ih h.2
      cases p with
      | value v => exact congrArg (Sign.value v :: ·) (hrest (n + 1))
      | text | table | column | opening | named | closing =>
          have hnone := placeholders_tokens h.1 n
          rw [tokensOf, fill_append hnone]
          exact congrArg (_ ++ ·) (hrest n)

/-- Pieces with the same text and the same values have the same signs. -/
theorem signsOf_eq_of_textOf_eq {d : Dialect} {ps qs : List Piece} {vs : List Value}
    (hps : Regular true ps vs) (hqs : Regular true qs vs)
    (h : textOf d 0 ps = textOf d 0 qs) : signsOf d ps = signsOf d qs := by
  have htokens : tokensOf d 0 ps = tokensOf d 0 qs := by
    have hlex := hps.lex_textOf d 0
    rw [h, hqs.lex_textOf d 0] at hlex
    exact (Option.some.inj hlex).symm
  rw [← fill_tokensOf (hps.settled d) 0, ← fill_tokensOf (hqs.settled d) 0, htokens, hps.bound,
    hqs.bound]

end Piece

/-! ## Names -/

def nameSigns (name : String) : List Sign := (nameTokens name).map .token

/-- Whether a sign may be a name. -/
def Sign.isName : Sign → Bool
  | token (.name _) => true
  | token (.word text) => !needsQuoting text
  | _ => false

/-- Nothing, or what begins with a sign that is no name. -/
def Unnamed (ss : List Sign) : Prop := ∀ s ∈ ss.head?, s.isName = false

theorem unnamed_cons {s : Sign} (h : s.isName = false) (ss : List Sign) : Unnamed (s :: ss) := by
  simpa [Unnamed] using h

/-- A name is written in signs of names only. -/
theorem isName_of_mem_nameSigns (name : String) : ∀ s ∈ nameSigns name, s.isName = true := by
  refine List.forall_mem_map.mpr (forall_mem_nameTokens rfl fun hquote => ?_)
  simp [Sign.isName, hquote]

/-- The name that signs begin with, and what is left behind it. -/
def readName : List Sign → String × List Sign
  | .token (.name text) :: rest => (text, rest)
  | .word text :: rest => if needsQuoting text then ("", .word text :: rest) else (text, rest)
  | rest => ("", rest)

/-- A name is read up to the first sign of something else. -/
theorem readName_append (name : String) {ss : List Sign} (h : Unnamed ss) :
    readName (nameSigns name ++ ss) = (name, ss) := by
  unfold nameSigns nameTokens
  split
  · rfl
  · next hquote =>
      split
      · next hname =>
          subst hname
          rw [List.map_nil, List.nil_append]
          unfold readName
          split
          · next text rest => cases h _ rfl
          · next text rest =>
              have hkeyword : needsQuoting text = true := by simpa [Unnamed, Sign.isName] using h
              rw [if_pos hkeyword]
          · rfl
      · simp [readName, hquote]

/-- A name can be told from its signs, even the empty one, which has none. -/
theorem nameSigns_append_inj {a b : String} {ss us : List Sign} (hs : Unnamed ss)
    (hu : Unnamed us) (h : nameSigns a ++ ss = nameSigns b ++ us) : a = b ∧ ss = us := by
  have hread := congrArg readName h
  rw [readName_append a hs, readName_append b hu] at hread
  exact Prod.mk.inj hread

/-- A sign that is no name ends the name in front of it. -/
theorem nameSigns_cons_inj {a b : String} {s : Sign} (hs : s.isName = false) {ss us : List Sign}
    (h : nameSigns a ++ s :: ss = nameSigns b ++ s :: us) : a = b ∧ ss = us := by
  obtain ⟨hname, hrest⟩ := nameSigns_append_inj (unnamed_cons hs ss) (unnamed_cons hs us) h
  exact ⟨hname, (List.cons.inj hrest).2⟩

/-- The signs of a column with its qualifier. -/
def columnSigns (qualifier name : String) : List Sign := (columnTokens qualifier name).map .token

theorem columnSigns_eq (qualifier name : String) :
    columnSigns qualifier name = nameSigns qualifier ++ .mark '.' :: nameSigns name := by
  simp [columnSigns, columnTokens, nameSigns]

/-- Of two texts that begin alike with a column, the columns and the rests are the same. -/
theorem columnSigns_append_inj {qualifier a b : String} {ss us : List Sign} (hs : Unnamed ss)
    (hu : Unnamed us) (h : columnSigns qualifier a ++ ss = columnSigns qualifier b ++ us) :
    a = b ∧ ss = us := by
  simp only [columnSigns_eq, List.append_assoc, List.cons_append] at h
  exact nameSigns_append_inj hs hu (List.cons.inj (List.append_cancel_left h)).2

theorem columnSigns_cons_inj {qualifier a b : String} {s : Sign} (hs : s.isName = false)
    {ss us : List Sign}
    (h : columnSigns qualifier a ++ s :: ss = columnSigns qualifier b ++ s :: us) :
    a = b ∧ ss = us := by
  obtain ⟨hname, hrest⟩ := columnSigns_append_inj (unnamed_cons hs ss) (unnamed_cons hs us) h
  exact ⟨hname, (List.cons.inj hrest).2⟩

end Sql

end Sift
