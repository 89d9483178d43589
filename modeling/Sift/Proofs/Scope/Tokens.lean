import Sift.Proofs.Scope.Pieces
import Sift.Proofs.Sql.Lexer

/-!
# Sift.Proofs.Scope.Tokens

Statements in pieces, token by token.  Where breaks keep neighbouring pieces apart, each
piece is read as it is by itself.  This is so of all that is written for clauses, except
for what templates say.

Main statements:

* `lex_textOf` — the tokens of pieces that are kept apart;
* `placeholders_tokensOf` — the placeholders among them, numbered in order.
-/

namespace Sift

open Sql (Token lex nameTokens)

namespace Sql

/-! ## Placeholders -/

/-- The placeholder that a token is. -/
def Token.placeholder? : Token → Option String
  | placeholder text => some text
  | _ => none

def placeholders (ts : List Token) : List String := ts.filterMap Token.placeholder?

@[simp] theorem placeholders_append (ts us : List Token) :
    placeholders (ts ++ us) = placeholders ts ++ placeholders us :=
  List.filterMap_append

def Token.isLiteral : Token → Bool
  | literal _ => true
  | _ => false

/-- A name holds no placeholder, whatever is in it. -/
@[simp] theorem placeholders_nameTokens (name : String) : placeholders (nameTokens name) = [] := by
  unfold nameTokens
  split
  · rfl
  · split <;> rfl

/-- What is so of a name in delimiters and of a bare one is so of the tokens of a name. -/
theorem forall_mem_nameTokens {P : Token → Prop} {name : String} (hname : P (.name name))
    (hword : needsQuoting name = false → P (.word name)) : ∀ t ∈ nameTokens name, P t := by
  unfold nameTokens
  split
  · exact List.forall_mem_singleton.mpr hname
  · next hquote =>
      split
      · exact List.forall_mem_nil _
      · exact List.forall_mem_singleton.mpr (hword (Bool.not_eq_true _ ▸ hquote))

/-- Nor does it hold a literal. -/
theorem isLiteral_nameTokens (name : String) : ∀ t ∈ nameTokens name, t.isLiteral = false :=
  forall_mem_nameTokens rfl fun _ => rfl

/-- Whether a text can be read and holds neither placeholders nor literals. -/
def isPlain (d : Dialect) (sql : String) : Bool :=
  (lex d sql).any fun ts => ts.all fun t => t.placeholder?.isNone && !t.isLiteral

/-- A plain text is made of tokens without placeholders and literals. -/
theorem exists_lex_of_isPlain {d : Dialect} {sql : String} (h : isPlain d sql = true) :
    ∃ ts, lex d sql = some ts ∧ placeholders ts = [] ∧ ∀ t ∈ ts, t.isLiteral = false := by
  obtain ⟨ts, hts, hall⟩ := (Option.any_eq_true ..).mp h
  simp only [List.all_eq_true, Bool.and_eq_true, Option.isNone_iff_eq_none, Bool.not_eq_true']
    at hall
  have hnone : placeholders ts = [] := List.filterMap_eq_nil_iff.mpr fun t ht => (hall t ht).1
  exact ⟨ts, hts, hnone, fun t ht => (hall t ht).2⟩

/-! ## Columns -/

/-- The tokens of a column with its qualifier. -/
def columnTokens (qualifier name : String) : List Token :=
  nameTokens qualifier ++ .mark '.' :: nameTokens name

/-- What holds of the tokens of both names and of the dot holds of those of a column. -/
theorem forall_mem_columnTokens {P : Token → Prop} {qualifier name : String}
    (hqualifier : ∀ t ∈ nameTokens qualifier, P t) (hdot : P (.mark '.'))
    (hname : ∀ t ∈ nameTokens name, P t) : ∀ t ∈ columnTokens qualifier name, P t :=
  List.forall_mem_append.mpr ⟨hqualifier, List.forall_mem_cons.mpr ⟨hdot, hname⟩⟩

theorem lex_column (d : Dialect) (qualifier name : String) :
    lex d (d.quoteIdentifier qualifier ++ "." ++ d.quoteIdentifier name) =
      some (columnTokens qualifier name) := by
  have hdot : lex d "." = some [.mark '.'] := by cases d <;> rfl
  have hqualifier := lex_append (lex_quoteIdentifier d qualifier) hdot (.inr rfl)
  have hend : endsFree (d.quoteIdentifier qualifier ++ ".") = true := by
    simp [endsFree, isBreak, isMark]
  rw [lex_append hqualifier (lex_quoteIdentifier d name) (.inl hend), columnTokens,
    List.append_assoc, List.singleton_append]

/-! ## The tokens of pieces -/

namespace Piece

/-- The tokens of a piece behind so many bound values.  A text that cannot be read has
none. -/
def tokens (d : Dialect) (n : Nat) : Piece → List Token
  | text sql => (lex d sql).getD []
  | value _ => [.placeholder (d.placeholder (n + 1))]
  | table name => nameTokens name
  | column _ qualifier name => columnTokens qualifier name
  | opening => [.word "EXISTS", .mark '(', .word "SELECT", .word "1", .word "FROM"]
  | named name _ => .word "AS" :: nameTokens name
  | closing => [.mark ')']

def tokensOf (d : Dialect) (n : Nat) : List Piece → List Token
  | [] => []
  | p :: ps => p.tokens d n ++ tokensOf d (n + p.bound.length) ps

/-- A piece that can be read by itself. -/
def Readable (d : Dialect) : Piece → Prop
  | text sql => ∃ ts, lex d sql = some ts
  | _ => True

theorem lex_textAt {d : Dialect} {p : Piece} (h : p.Readable d) (n : Nat) :
    lex d (p.textAt d n) = some (p.tokens d n) := by
  cases p with
  | text sql =>
      obtain ⟨ts, hts⟩ := h
      rw [textAt, tokens, hts, Option.getD_some]
  | value v => exact lex_placeholder d (n + 1)
  | table name => exact lex_quoteIdentifier d name
  | column rows qualifier name => exact lex_column d qualifier name
  | opening | closing =>
      simp only [textAt, tokens]
      cases d <;> rfl
  | named name rows =>
      have has : lex d " AS " = some [.word "AS"] := by cases d <;> rfl
      exact lex_append has (lex_quoteIdentifier d name) (.inl rfl)

theorem tokensOf_append (d : Dialect) (n : Nat) (ps qs : List Piece) :
    tokensOf d n (ps ++ qs) = tokensOf d n ps ++ tokensOf d (n + (boundBy ps).length) qs := by
  induction ps generalizing n with
  | nil => simp [tokensOf]
  | cons p ps ih => simp [tokensOf, ih, Nat.add_assoc]

/-- What is so of the tokens of each piece is so of all. -/
theorem forall_mem_tokensOf {P : Token → Prop} {d : Dialect} {ps : List Piece}
    (h : ∀ p ∈ ps, ∀ n, ∀ t ∈ p.tokens d n, P t) (n : Nat) : ∀ t ∈ tokensOf d n ps, P t := by
  induction ps generalizing n with
  | nil => exact List.forall_mem_nil _
  | cons p ps ih =>
      have hrest := ih (fun q hq => h q (List.mem_cons_of_mem _ hq)) (n + p.bound.length)
      exact List.forall_mem_append.mpr ⟨h p (List.mem_cons_self ..) n, hrest⟩

/-- Pieces that bind nothing have the same tokens wherever they stand. -/
theorem tokensOf_of_boundBy_eq_nil {d : Dialect} {ps : List Piece} (h : boundBy ps = [])
    (m n : Nat) : tokensOf d m ps = tokensOf d n ps := by
  induction ps generalizing m n with
  | nil => rfl
  | cons p ps ih =>
      rw [boundBy_cons, List.append_eq_nil_iff] at h
      have hp : p.tokens d m = p.tokens d n := by
        cases p with
        | value v => cases h.1
        | text | table | column | opening | named | closing => rfl
      rw [tokensOf, tokensOf, hp, ih h.2]

/-! ## Pieces that are kept apart -/

def startsFree : Piece → Bool
  | text sql => Sql.startsFree sql
  | named .. | closing => true
  | _ => false

def endsFree : Piece → Bool
  | text sql => Sql.endsFree sql
  | opening | closing => true
  | _ => false

def isEmpty : Piece → Bool
  | text sql => sql = ""
  | _ => false

/-- Whether breaks keep pieces apart from each other and from what stands before them,
which may end with a break. -/
def spaced : Bool → List Piece → Bool
  | _, [] => true
  | free, p :: ps =>
    if p.isEmpty then spaced free ps else (free || p.startsFree) && spaced p.endsFree ps

theorem startsFree_textAt {p : Piece} (h : p.startsFree = true) (d : Dialect) (n : Nat) :
    Sql.startsFree (p.textAt d n) = true := by
  cases p with
  | text sql => exact h
  | named name rows => simp [textAt, Sql.startsFree, isBreak, isBlank]
  | closing =>
      rw [textAt]
      rfl
  | value | table | column | opening => cases h

theorem endsFree_textAt {p : Piece} (h : p.endsFree = true) (d : Dialect) (n : Nat) :
    Sql.endsFree (p.textAt d n) = true := by
  cases p with
  | text sql => exact h
  | opening | closing =>
      rw [textAt]
      rfl
  | value | table | column | named => cases h

theorem endsFree_append {s t : String} (h : Sql.endsFree t = true) :
    Sql.endsFree (s ++ t) = true := by
  rw [Sql.endsFree, Option.any_eq_true] at h ⊢
  obtain ⟨c, hlast, hc⟩ := h
  exact ⟨c, by simp [hlast], hc⟩

/-- Pieces are read behind a text that they are kept apart from. -/
theorem lex_append_textOf {d : Dialect} {free : Bool} {ps : List Piece}
    (hread : ∀ p ∈ ps, p.Readable d) (hspaced : spaced free ps = true) {n : Nat} {s : String}
    {ts : List Token} (hs : lex d s = some ts)
    (hfree : free = true → s = "" ∨ Sql.endsFree s = true) :
    lex d (s ++ textOf d n ps) = some (ts ++ tokensOf d n ps) := by
  induction ps generalizing free n s ts with
  | nil => simpa [textOf, tokensOf] using hs
  | cons p ps ih =>
      have hp := lex_textAt (hread p (List.mem_cons_self ..)) n
      have hrest : ∀ q ∈ ps, q.Readable d := fun q hq => hread q (List.mem_cons_of_mem _ hq)
      have happend : lex d (s ++ p.textAt d n) = some (ts ++ p.tokens d n) ∧
          ∃ free', spaced free' ps = true ∧
            (free' = true → s ++ p.textAt d n = "" ∨ Sql.endsFree (s ++ p.textAt d n) = true) := by
        rw [spaced] at hspaced
        split at hspaced
        · next hempty =>
            have htext : p.textAt d n = "" := by
              cases p with
              | text sql => simpa [isEmpty, textAt] using hempty
              | value | table | column | opening | named | closing => cases hempty
            have hempty : p.tokens d n = [] := by
              rw [htext] at hp
              exact Option.some.inj (hp.symm.trans rfl)
            rw [htext, hempty, String.append_empty, List.append_nil]
            exact ⟨hs, free, hspaced, hfree⟩
        · rw [Bool.and_eq_true] at hspaced
          refine ⟨?_, p.endsFree, hspaced.2,
            fun h => .inr (endsFree_append (endsFree_textAt h d n))⟩
          rcases Bool.or_eq_true_iff.mp hspaced.1 with h | h
          · rcases hfree h with rfl | h
            · obtain rfl : ts = [] := Option.some.inj (hs.symm.trans rfl)
              simpa using hp
            · exact lex_append hs hp (.inl h)
          · exact lex_append hs hp (.inr (startsFree_textAt h d n))
      obtain ⟨hlex, free', hspaced', hfree'⟩ := happend
      rw [textOf, tokensOf, ← String.append_assoc, ← List.append_assoc]
      exact ih hrest hspaced' hlex hfree'

/-- The tokens of pieces that are kept apart. -/
theorem lex_textOf {d : Dialect} {ps : List Piece} (hread : ∀ p ∈ ps, p.Readable d)
    (hspaced : spaced true ps = true) (n : Nat) :
    lex d (textOf d n ps) = some (tokensOf d n ps) := by
  have h := lex_append_textOf (s := "") (n := n) hread hspaced rfl fun _ => .inl rfl
  simpa using h

/-- Pieces that are kept apart from any text are kept apart from one that ends with a
break. -/
theorem spaced_true_of_spaced_false {ps : List Piece} (h : spaced false ps = true) :
    spaced true ps = true := by
  induction ps with
  | nil => rfl
  | cons p ps ih =>
      rw [spaced] at h ⊢
      split at h
      · next hempty => rw [if_pos hempty, ih h]
      · next hempty =>
          rw [if_neg hempty]
          rw [Bool.and_eq_true] at h
          simpa using h.2

theorem spaced_append {free : Bool} {ps qs : List Piece} (hps : spaced free ps = true)
    (hqs : spaced false qs = true) : spaced free (ps ++ qs) = true := by
  induction ps generalizing free with
  | nil =>
      cases free with
      | false => exact hqs
      | true => exact spaced_true_of_spaced_false hqs
  | cons p ps ih =>
      rw [List.cons_append]
      rw [spaced] at hps ⊢
      split at hps
      · next hempty => rw [if_pos hempty, ih hps]
      · next hempty =>
          rw [Bool.and_eq_true] at hps
          rw [if_neg hempty, hps.1, ih hps.2]
          rfl

/-! ## The placeholders of pieces -/

/-- A piece whose text, if it has one of its own, holds no placeholder. -/
def Settled (d : Dialect) : Piece → Prop
  | text sql => isPlain d sql = true
  | _ => True

theorem Settled.readable {d : Dialect} {p : Piece} (h : p.Settled d) : p.Readable d := by
  cases p with
  | text sql => exact (exists_lex_of_isPlain h).imp fun _ h => h.1
  | value | table | column | opening | named | closing => exact trivial

/-- A piece holds a placeholder for each value that it binds and no other. -/
theorem placeholders_tokens {d : Dialect} {p : Piece} (h : p.Settled d) (n : Nat) :
    placeholders (p.tokens d n) =
      (List.range' n p.bound.length).map fun i => d.placeholder (i + 1) := by
  cases p with
  | text sql =>
      obtain ⟨ts, hts, hnone, -⟩ := exists_lex_of_isPlain h
      rw [tokens, hts]
      exact hnone
  | value | opening | closing => rfl
  | table name => exact placeholders_nameTokens name
  | column rows qualifier name =>
      rw [tokens, columnTokens, placeholders_append, placeholders_nameTokens]
      exact placeholders_nameTokens name
  | named name rows => exact placeholders_nameTokens name

/-- Pieces hold the placeholders of the values that they bind, numbered in order. -/
theorem placeholders_tokensOf {d : Dialect} {ps : List Piece} (h : ∀ p ∈ ps, p.Settled d)
    (n : Nat) :
    placeholders (tokensOf d n ps) =
      (List.range' n (boundBy ps).length).map fun i => d.placeholder (i + 1) := by
  induction ps generalizing n with
  | nil => rfl
  | cons p ps ih =>
      rw [tokensOf, placeholders_append, placeholders_tokens (h p (List.mem_cons_self ..)),
        ih fun q hq => h q (List.mem_cons_of_mem _ hq), boundBy_cons, List.length_append,
        ← List.range'_append, List.map_append, Nat.one_mul]

/-- No literal is written. -/
theorem isLiteral_tokens {d : Dialect} {p : Piece} (h : p.Settled d) (n : Nat) :
    ∀ t ∈ p.tokens d n, t.isLiteral = false := by
  cases p with
  | text sql =>
      obtain ⟨ts, hts, -, hliteral⟩ := exists_lex_of_isPlain h
      rw [tokens, hts, Option.getD_some]
      exact hliteral
  | value v => exact List.forall_mem_singleton.mpr rfl
  | table name => exact isLiteral_nameTokens name
  | column rows qualifier name =>
      exact forall_mem_columnTokens (isLiteral_nameTokens qualifier) rfl (isLiteral_nameTokens name)
  | named name rows => exact List.forall_mem_cons.mpr ⟨rfl, isLiteral_nameTokens name⟩
  | opening | closing =>
      rw [tokens]
      decide

end Piece

end Sql

end Sift
