import Sift.Sql.Identifier

/-!
# Sift.Proofs.Sql.Lexer

Statements as the tokens that an engine takes them for.  A delimited name is one token,
whatever characters it holds, and so is a literal; a word, an operator and a placeholder
go on as long as their characters do.  Blanks and the marks `(`, `)`, `,` and `.` end
every token that can end.

Texts that mean different things to different engines are not read: comments, other
quotes than the dialect's own, and literals with a backslash.

Main statements:

* `lex_append` — texts that a blank or a mark keeps apart are read one after the other;
* `lex_quoteIdentifier` — a name is read as one token that holds exactly the name.
-/

namespace Sift

namespace Sql

/-! ## Tokens -/

/-- A token of a statement. -/
inductive Token where
  /-- A keyword or a bare name. -/
  | word (text : String)
  /-- A name between the dialect's delimiters. -/
  | name (text : String)
  /-- A text between single quotes. -/
  | literal (text : String)
  | placeholder (text : String)
  | operator (text : String)
  | mark (c : Char)
deriving DecidableEq, Repr

/-- Whether a character only keeps tokens apart. -/
def isBlank (c : Char) : Bool := c = ' ' || c = '\t' || c = '\n'

/-- Whether a character is a token wherever it stands between tokens. -/
def isMark (c : Char) : Bool := c = '(' || c = ')' || c = ',' || c = '.'

/-- Whether a character ends the token in front of it. -/
def isBreak (c : Char) : Bool := isBlank c || isMark c

/-- Whether a character is part of an operator. -/
def isOperator (c : Char) : Bool :=
  ['=', '<', '>', '!', '+', '-', '*', '/', '%', '|', ':'].contains c

/-- The operators that are read.  Not among them are two dashes and a slash with a star,
which begin comments, and two bars, which some engines take for a disjunction. -/
def operators : List String :=
  ["=", "<>", "!=", "<", "<=", ">", ">=", "+", "-", "*", "/", "%", "::"]

end Sql

/-- What every placeholder of a dialect begins with. -/
def Dialect.placeholderMark : Dialect → Char
  | .postgres => '$'
  | .mssql => '@'
  | .mysql | .sqlite | .other _ => '?'

/-- Whether a placeholder of the dialect goes on with a character. -/
def Dialect.inPlaceholder : Dialect → Char → Bool
  | .postgres, c => c.isDigit
  | .mssql, c => Sql.isBare c
  | .mysql, _ | .sqlite, _ | .other _, _ => false

namespace Sql

/-! ## Reading tokens -/

/-- What a reader is in the middle of. -/
inductive Mode where
  | between
  | word (text : List Char)
  | operator (text : List Char)
  | placeholder (text : List Char)
  /-- In a delimited name. -/
  | name (text : List Char)
  /-- Behind a closing delimiter, which may turn out to be the first of two. -/
  | nameEnd (text : List Char)
  /-- In a literal. -/
  | literal (text : List Char)
  /-- Behind a quote, which may turn out to be the first of two. -/
  | literalEnd (text : List Char)
  /-- In what is not read. -/
  | stuck

namespace Mode

/-- How a reader goes on with a character that belongs to the token it is in. -/
def continued (d : Dialect) (c : Char) : Mode → Option Mode
  | between => none
  | word text => if isBare c then some (word (text ++ [c])) else none
  | operator text => if isOperator c then some (operator (text ++ [c])) else none
  | placeholder text => if d.inPlaceholder c then some (placeholder (text ++ [c])) else none
  | name text => some (if c = d.closing then nameEnd text else name (text ++ [c]))
  | nameEnd text => if c = d.closing then some (name (text ++ [c])) else none
  | literal text =>
    some (if c = '\'' then literalEnd text
      else if c = '\\' then stuck else literal (text ++ [c]))
  | literalEnd text => if c = '\'' then some (literal (text ++ [c])) else none
  | stuck => some stuck

/-- The token that a reader is in, if it can end. -/
def finish : Mode → Option (List Token)
  | between => some []
  | word text => some [.word (String.ofList text)]
  | operator text =>
    if operators.contains (String.ofList text) then some [.operator (String.ofList text)]
    else none
  | placeholder text => some [.placeholder (String.ofList text)]
  | nameEnd text => some [.name (String.ofList text)]
  | literalEnd text => some [.literal (String.ofList text)]
  | name _ => none
  | literal _ => none
  | stuck => none

/-- What a character begins between tokens, with the token that it is by itself. -/
def start (d : Dialect) (c : Char) : Option (List Token × Mode) :=
  if isBlank c then some ([], between)
  else if isMark c then some ([.mark c], between)
  else if isBare c then some ([], word [c])
  else if c = d.opening then some ([], name [])
  else if c = '\'' then some ([], literal [])
  else if c = d.placeholderMark then some ([], placeholder [c])
  else if isOperator c then some ([], operator [c])
  else none

/-- The tokens that are complete with a character, and how a reader goes on. -/
def step (d : Dialect) (m : Mode) (c : Char) : Option (List Token × Mode) :=
  match m.continued d c with
  | some next => some ([], next)
  | none => do
    let ts ← m.finish
    let (us, next) ← start d c
    return (ts ++ us, next)

end Mode

/-- The tokens of a text, read from the middle of one. -/
def lexFrom (d : Dialect) : Mode → List Char → Option (List Token)
  | m, [] => m.finish
  | m, c :: cs => do
    let (ts, next) ← m.step d c
    let us ← lexFrom d next cs
    return ts ++ us

/-- The tokens of a text, if all of it can be read. -/
def lex (d : Dialect) (text : String) : Option (List Token) := lexFrom d .between text.toList

/-! ## Breaks -/

theorem eq_of_isBreak {c : Char} (h : isBreak c = true) :
    c = ' ' ∨ c = '\t' ∨ c = '\n' ∨ c = '(' ∨ c = ')' ∨ c = ',' ∨ c = '.' := by
  simpa [isBreak, isBlank, isMark, or_assoc] using h

theorem isBare_of_isBreak {c : Char} (h : isBreak c = true) : isBare c = false := by
  rcases eq_of_isBreak h with rfl | rfl | rfl | rfl | rfl | rfl | rfl <;> rfl

theorem ne_opening_of_isBreak {c : Char} (h : isBreak c = true) (d : Dialect) :
    c ≠ d.opening := by
  rcases eq_of_isBreak h with rfl | rfl | rfl | rfl | rfl | rfl | rfl <;>
    cases d <;> simp [Dialect.opening]

theorem ne_closing_of_isBreak {c : Char} (h : isBreak c = true) (d : Dialect) :
    c ≠ d.closing := by
  rcases eq_of_isBreak h with rfl | rfl | rfl | rfl | rfl | rfl | rfl <;>
    cases d <;> simp [Dialect.closing]

/-- A break belongs to no token that can end. -/
theorem continued_of_isBreak (d : Dialect) {c : Char} (hc : isBreak c = true) {m : Mode}
    {ts : List Token} (hm : m.finish = some ts) : m.continued d c = none := by
  cases m with
  | between => rfl
  | word | operator | literalEnd =>
      rcases eq_of_isBreak hc with rfl | rfl | rfl | rfl | rfl | rfl | rfl <;> rfl
  | placeholder | nameEnd =>
      rcases eq_of_isBreak hc with rfl | rfl | rfl | rfl | rfl | rfl | rfl <;> cases d <;> rfl
  | name | literal | stuck => cases hm

/-- Behind a break a reader is between tokens, or in one that cannot end. -/
theorem next_eq_between_of_isBreak {d : Dialect} {c : Char} (hc : isBreak c = true) {m next : Mode}
    {ts us : List Token} (hstep : m.step d c = some (ts, next)) (hnext : next.finish = some us) :
    next = .between := by
  cases hm : m.finish with
  | some vs =>
      simp only [Mode.step, continued_of_isBreak d hc hm, hm, Option.bind_eq_bind,
        Option.bind_some] at hstep
      rcases eq_of_isBreak hc with rfl | rfl | rfl | rfl | rfl | rfl | rfl <;>
        simp_all [Mode.start, isBlank, isMark]
  | none =>
      exfalso
      have hclosing := ne_closing_of_isBreak hc d
      have hquote : c ≠ '\'' := by
        rcases eq_of_isBreak hc with rfl | rfl | rfl | rfl | rfl | rfl | rfl <;> decide
      have hbackslash : c ≠ '\\' := by
        rcases eq_of_isBreak hc with rfl | rfl | rfl | rfl | rfl | rfl | rfl <;> decide
      have hoperator : isOperator c = false := by
        rcases eq_of_isBreak hc with rfl | rfl | rfl | rfl | rfl | rfl | rfl <;> decide
      cases m with
      | between | word | placeholder | nameEnd | literalEnd => cases hm
      | operator text => simp [Mode.step, Mode.continued, hoperator, hm] at hstep
      | name text =>
          simp only [Mode.step, Mode.continued, if_neg hclosing, Option.some.injEq,
            Prod.mk.injEq] at hstep
          rw [← hstep.2] at hnext
          cases hnext
      | literal text =>
          simp only [Mode.step, Mode.continued, if_neg hquote, if_neg hbackslash,
            Option.some.injEq, Prod.mk.injEq] at hstep
          rw [← hstep.2] at hnext
          cases hnext
      | stuck =>
          simp only [Mode.step, Mode.continued, Option.some.injEq, Prod.mk.injEq] at hstep
          rw [← hstep.2] at hnext
          cases hnext

/-! ## Reading texts in turn -/

theorem lexFrom_cons_eq_some_iff {d : Dialect} {m : Mode} {c : Char} {cs : List Char}
    {vs : List Token} :
    lexFrom d m (c :: cs) = some vs ↔
      ∃ ts next us, m.step d c = some (ts, next) ∧ lexFrom d next cs = some us ∧
        vs = ts ++ us := by
  simp only [lexFrom, Option.bind_eq_bind, Option.bind_eq_some_iff, Option.pure_def,
    Option.some.injEq, Prod.exists]
  constructor
  · rintro ⟨ts, next, hstep, us, hnext, rfl⟩
    exact ⟨ts, next, us, hstep, hnext, rfl⟩
  · rintro ⟨ts, next, us, hstep, hnext, rfl⟩
    exact ⟨ts, next, hstep, us, hnext, rfl⟩

/-- A text that begins with a break is read apart from what stands in front of it. -/
theorem lexFrom_append_cons {d : Dialect} {c : Char} (hc : isBreak c = true) {m : Mode}
    {s t : List Char} {ts us : List Token} (hs : lexFrom d m s = some ts)
    (ht : lexFrom d .between (c :: t) = some us) :
    lexFrom d m (s ++ c :: t) = some (ts ++ us) := by
  induction s generalizing m ts with
  | nil =>
      obtain ⟨vs, next, ws, hstep, hnext, rfl⟩ := lexFrom_cons_eq_some_iff.mp ht
      refine lexFrom_cons_eq_some_iff.mpr ⟨ts ++ vs, next, ws, ?_, hnext, by simp⟩
      have hfinish : m.finish = some ts := hs
      simp only [Mode.step, Mode.continued, Mode.finish, Option.bind_eq_bind,
        Option.bind_some] at hstep
      cases hstart : Mode.start d c with
      | none => simp [hstart] at hstep
      | some r =>
          simp only [hstart, Option.bind_some, Option.pure_def, Option.some.injEq,
            Prod.mk.injEq] at hstep
          simp [Mode.step, continued_of_isBreak d hc hfinish, hfinish, hstart, ← hstep.1,
            ← hstep.2]
  | cons a s ih =>
      obtain ⟨vs, next, ws, hstep, hnext, rfl⟩ := lexFrom_cons_eq_some_iff.mp hs
      refine lexFrom_cons_eq_some_iff.mpr ⟨vs, next, ws ++ us, hstep, ih hnext, ?_⟩
      rw [List.append_assoc]

/-- A text that ends with a break is read apart from what stands behind it. -/
theorem lexFrom_concat_append {d : Dialect} {c : Char} (hc : isBreak c = true) {m : Mode}
    {s t : List Char} {ts us : List Token} (hs : lexFrom d m (s ++ [c]) = some ts)
    (ht : lexFrom d .between t = some us) :
    lexFrom d m (s ++ c :: t) = some (ts ++ us) := by
  induction s generalizing m ts with
  | nil =>
      obtain ⟨vs, next, ws, hstep, hnext, rfl⟩ := lexFrom_cons_eq_some_iff.mp hs
      obtain rfl := next_eq_between_of_isBreak hc hstep hnext
      cases hnext
      exact lexFrom_cons_eq_some_iff.mpr ⟨vs, .between, us, hstep, ht, by simp⟩
  | cons a s ih =>
      obtain ⟨vs, next, ws, hstep, hnext, rfl⟩ := lexFrom_cons_eq_some_iff.mp hs
      refine lexFrom_cons_eq_some_iff.mpr ⟨vs, next, ws ++ us, hstep, ih hnext, ?_⟩
      rw [List.append_assoc]

/-- Whether a text begins with a break. -/
def startsFree (s : String) : Bool := s.toList.head?.any isBreak

/-- Whether a text ends with a break. -/
def endsFree (s : String) : Bool := s.toList.getLast?.any isBreak

/-- Texts that a break keeps apart are read one after the other. -/
theorem lex_append {d : Dialect} {s t : String} {ts us : List Token} (hs : lex d s = some ts)
    (ht : lex d t = some us) (h : endsFree s = true ∨ startsFree t = true) :
    lex d (s ++ t) = some (ts ++ us) := by
  unfold lex at *
  rw [String.toList_append]
  rcases h with h | h
  · rw [endsFree, Option.any_eq_true] at h
    obtain ⟨c, hlast, hc⟩ := h
    obtain ⟨init, hinit⟩ := List.getLast?_eq_some_iff.mp hlast
    rw [hinit, List.append_assoc, List.singleton_append]
    rw [hinit] at hs
    exact lexFrom_concat_append hc hs ht
  · rw [startsFree, Option.any_eq_true] at h
    obtain ⟨c, hhead, hc⟩ := h
    obtain ⟨tail, htail⟩ := List.head?_eq_some_iff.mp hhead
    rw [htail] at ht ⊢
    exact lexFrom_append_cons hc hs ht

/-! ## Names -/

/-- The tokens of a name: none of the empty name. -/
def nameTokens (name : String) : List Token :=
  if needsQuoting name then [.name name] else if name = "" then [] else [.word name]

theorem lexFrom_double (d : Dialect) (acc s : List Char) :
    lexFrom d (.name acc) (double d.closing s ++ [d.closing]) =
      some [.name (String.ofList (acc ++ s))] := by
  induction s generalizing acc with
  | nil => simp [double, lexFrom, Mode.step, Mode.continued, Mode.finish]
  | cons c s ih =>
      rw [double_cons]
      by_cases hc : c = d.closing
      · subst hc
        simp [lexFrom, Mode.step, Mode.continued, ih]
      · simp [lexFrom, Mode.step, Mode.continued, hc, ih]

theorem lexFrom_bare (d : Dialect) (acc : List Char) {s : List Char}
    (hs : s.all isBare = true) :
    lexFrom d (.word acc) s = some [.word (String.ofList (acc ++ s))] := by
  induction s generalizing acc with
  | nil => simp [lexFrom, Mode.finish]
  | cons c s ih =>
      rw [List.all_cons, Bool.and_eq_true] at hs
      simp [lexFrom, Mode.step, Mode.continued, hs.1, ih _ hs.2]

/-- A character of a bare name begins a word between tokens. -/
theorem start_of_isBare (d : Dialect) {c : Char} (hc : isBare c = true) :
    Mode.start d c = some ([], .word [c]) := by
  have hbreak : isBreak c = false := by
    cases h : isBreak c with
    | false => rfl
    | true =>
        rw [isBare_of_isBreak h] at hc
        cases hc
  rw [isBreak, Bool.or_eq_false_iff] at hbreak
  simp [Mode.start, hbreak, hc]

theorem start_opening (d : Dialect) : Mode.start d d.opening = some ([], .name []) := by
  cases d <;> rfl

/-- A name is read as one token that holds exactly the name. -/
theorem lex_quoteIdentifier (d : Dialect) (name : String) :
    lex d (d.quoteIdentifier name) = some (nameTokens name) := by
  unfold Dialect.quoteIdentifier nameTokens lex
  split
  · next hquote =>
      rw [Dialect.escapeIdentifier, String.toList_ofList, List.cons_append]
      refine lexFrom_cons_eq_some_iff.mpr ⟨[], .name [], [.name name], ?_, ?_, rfl⟩
      · simp [Mode.step, Mode.continued, Mode.finish, start_opening]
      · rw [lexFrom_double, List.nil_append, String.ofList_toList]
  · next hquote =>
      have hbare := all_isBare_of_needsQuoting (Bool.eq_false_iff.mpr hquote)
      cases hname : name.toList with
      | nil =>
          rw [if_pos (String.toList_eq_nil_iff.mp hname)]
          rfl
      | cons c cs =>
          have hne : name ≠ "" := by
            intro h
            simp [h] at hname
          rw [if_neg hne]
          rw [hname, List.all_cons, Bool.and_eq_true] at hbare
          refine lexFrom_cons_eq_some_iff.mpr ⟨[], .word [c], [.word name], ?_, ?_, rfl⟩
          · simp [Mode.step, Mode.continued, Mode.finish, start_of_isBare d hbare.1]
          · rw [lexFrom_bare d [c] hbare.2, List.singleton_append, ← hname, String.ofList_toList]

/-! ## Placeholders -/

/-- A placeholder goes on with the digits of a number. -/
theorem lexFrom_placeholder (d : Dialect) (acc : List Char) {s : List Char}
    (hs : ∀ c ∈ s, d.inPlaceholder c = true) :
    lexFrom d (.placeholder acc) s = some [.placeholder (String.ofList (acc ++ s))] := by
  induction s generalizing acc with
  | nil => simp [lexFrom, Mode.finish]
  | cons c s ih =>
      have hc := hs c (List.mem_cons_self ..)
      have hrest := ih (acc ++ [c]) fun a ha => hs a (List.mem_cons_of_mem _ ha)
      simp [lexFrom, Mode.step, Mode.continued, hc, hrest]

theorem isDigit_of_mem_toString {n : Nat} {c : Char} (h : c ∈ (toString n).toList) :
    c.isDigit = true := by
  have hdigits : toString n = String.ofList (Nat.toDigits 10 n) := rfl
  rw [hdigits, String.toList_ofList] at h
  exact Nat.isDigit_of_mem_toDigits (by decide) (by decide) h

/-- A placeholder is read as one token. -/
theorem lex_placeholder (d : Dialect) (n : Nat) :
    lex d (d.placeholder n) = some [.placeholder (d.placeholder n)] := by
  cases d with
  | mysql | sqlite | other =>
      unfold lex Dialect.placeholder
      rw [show "?".toList = ['?'] from rfl]
      exact lexFrom_cons_eq_some_iff.mpr ⟨[], .placeholder ['?'], [.placeholder "?"], rfl, rfl, rfl⟩
  | postgres =>
      have h := lexFrom_placeholder .postgres ['$'] (s := (toString n).toList)
        fun c hc => isDigit_of_mem_toString hc
      have htext : String.ofList (['$'] ++ (toString n).toList) = "$" ++ toString n :=
        String.toList_inj.mp (by simp)
      unfold lex Dialect.placeholder
      rw [String.toList_append]
      exact lexFrom_cons_eq_some_iff.mpr ⟨[], .placeholder ['$'], _, rfl, h, by rw [htext]; rfl⟩
  | mssql =>
      have h := lexFrom_placeholder .mssql ['@'] (s := 'P' :: (toString n).toList) fun c hc => by
        rcases List.mem_cons.mp hc with rfl | hc
        · rfl
        · simp [Dialect.inPlaceholder, isBare, Char.isAlphanum, isDigit_of_mem_toString hc]
      have htext : String.ofList (['@'] ++ 'P' :: (toString n).toList) = "@P" ++ toString n :=
        String.toList_inj.mp (by simp)
      unfold lex Dialect.placeholder
      rw [String.toList_append]
      exact lexFrom_cons_eq_some_iff.mpr ⟨[], .placeholder ['@'], _, rfl, h, by rw [htext]; rfl⟩

/-! ## Words between names and values -/

section Joints

variable (d : Dialect)

@[simp] theorem lex_comma : lex d ", " = some [.mark ','] := by cases d <;> rfl

@[simp] theorem lex_closing : lex d ")" = some [.mark ')'] := by cases d <;> rfl

@[simp] theorem lex_and : lex d " AND " = some [.word "AND"] := by cases d <;> rfl

@[simp] theorem lex_where : lex d " WHERE " = some [.word "WHERE"] := by cases d <;> rfl

@[simp] theorem lex_on : lex d " ON " = some [.word "ON"] := by cases d <;> rfl

@[simp] theorem lex_equals : lex d " = " = some [.operator "="] := by cases d <;> rfl

@[simp] theorem lex_innerJoin : lex d " INNER JOIN " = some [.word "INNER", .word "JOIN"] := by
  cases d <;> rfl

end Joints

end Sql

end Sift
