import Sift.Proofs.Scope.Regular
import Sift.Proofs.Sql.Formula

/-!
# Sift.Proofs.Scope.Conjunction

What the condition of a scope is to an engine that reads it.  Clauses are written one after
the other with `AND` in between, and the tie to the parent row in front of those of a
related scope.  So they are read as they were recorded if none of them holds an `OR` outside
of parentheses; only a template can.

Main statements:

* `Condition.exists_readConjuncts` — what is written for any other condition is one
  condition;
* `Scope.read_whereSql` — a scope in whose templates no `OR` stands outside of parentheses is
  read as the conjunction of its clauses.
-/

namespace Sift

open Sql (Piece Token Item Formula Interpretation lex nameTokens conjuncts? readConjuncts read)

/-! ## Ordinary tokens -/

namespace Sql

/-- A name is no keyword. -/
theorem is_nameTokens {keyword : String} (hkeyword : keyword ∈ reserved) (name : String) :
    ∀ t ∈ nameTokens name, t.is keyword = false := by
  refine forall_mem_nameTokens rfl fun hquote => decide_eq_false ?_
  rintro rfl
  simp [needsQuoting, hkeyword] at hquote

/-- The tokens of a name are ordinary. -/
theorem isOrdinary_nameTokens (name : String) : ∀ t ∈ nameTokens name, t.isOrdinary = true := by
  intro t ht
  have hmark : ∀ c, t ≠ .mark c := fun c =>
    forall_mem_nameTokens (P := (· ≠ .mark c)) nofun (fun _ => nofun) t ht
  have hword : ∀ keyword ∈ reserved, t.is keyword = false :=
    fun keyword hkeyword => is_nameTokens hkeyword name t ht
  simp [Token.isOrdinary, hmark, hword "and" (by decide), hword "or" (by decide),
    hword "where" (by decide), hword "between" (by decide), hword "case" (by decide)]

theorem isOrdinary_columnTokens (qualifier name : String) :
    ∀ t ∈ columnTokens qualifier name, t.isOrdinary = true :=
  forall_mem_columnTokens (isOrdinary_nameTokens qualifier) rfl (isOrdinary_nameTokens name)

/-- What begins with a column is a test. -/
theorem ofItems_columnTokens (qualifier name : String) (u : Token) (us : List Token) :
    Formula.ofItems ((columnTokens qualifier name ++ u :: us).map .token) =
      .test ((columnTokens qualifier name ++ u :: us).map .token) := by
  have htest : ∀ (t v : Token) (ts : List Token), t.is "not" = false →
      Formula.ofItems ((t :: v :: ts).map .token) = .test ((t :: v :: ts).map .token) := by
    intro t v ts ht
    simp [Formula.ofItems, ht]
  unfold columnTokens
  cases hqualifier : nameTokens qualifier with
  | cons t ts =>
      have ht : t.is "not" = false :=
        is_nameTokens (by decide) qualifier t (hqualifier ▸ List.mem_cons_self ..)
      cases ts with
      | nil => exact htest t _ _ ht
      | cons v ts => exact htest t v _ ht
  | nil =>
      cases nameTokens name with
      | nil => exact htest (.mark '.') u us rfl
      | cons v ts => exact htest (.mark '.') v _ rfl

/-- A text of ordinary tokens. -/
def isOrdinaryText (d : Dialect) (sql : String) : Bool :=
  (lex d sql).any fun ts => ts.all Token.isOrdinary

namespace Piece

/-- A piece that is read as ordinary tokens. -/
def IsOrdinary (d : Dialect) : Piece → Prop
  | text sql => isOrdinaryText d sql = true
  | opening | closing => False
  | _ => True

/-- The tokens of an ordinary piece are ordinary. -/
theorem isOrdinary_tokens {d : Dialect} {p : Piece} (h : p.IsOrdinary d) (n : Nat) :
    ∀ t ∈ p.tokens d n, t.isOrdinary = true := by
  cases p with
  | text sql =>
      obtain ⟨ts, hts, hall⟩ := (Option.any_eq_true ..).mp h
      rw [tokens, hts, Option.getD_some]
      exact List.all_eq_true.mp hall
  | value v => exact List.forall_mem_singleton.mpr rfl
  | table name => exact isOrdinary_nameTokens name
  | column rows qualifier name => exact isOrdinary_columnTokens qualifier name
  | named name rows => exact List.forall_mem_cons.mpr ⟨by decide, isOrdinary_nameTokens name⟩
  | opening | closing => cases h

theorem isOrdinary_tokensOf {d : Dialect} {ps : List Piece} (h : ∀ p ∈ ps, p.IsOrdinary d)
    (n : Nat) : ∀ t ∈ tokensOf d n ps, t.isOrdinary = true :=
  forall_mem_tokensOf (fun p hp => isOrdinary_tokens (h p hp)) n

end Piece

end Sql

/-! ## Conditions -/

namespace Condition

/-- Whether a condition is written in a template. -/
def isRaw : Condition → Bool
  | .raw .. => true
  | _ => false

/-- A condition without a template of its own is in one of the templates, if in any. -/
theorem templated_of_isRaw_eq_false {c : Condition} (h : c.isRaw = false) :
    Operator.Templated c := by
  cases c with
  | raw => cases h
  | compare | among | null | between | like => exact trivial

/-- The template of a condition, if it has one, is read without an `OR` outside of
parentheses where it stands: about the rows of a frame and behind so many bound values. -/
def Conjunctive (d : Dialect) (frame : Frame) (n : Nat) (c : Condition) : Prop :=
  c.isRaw = true → (readConjuncts d (Piece.textOf d n (c.pieces frame))).isSome = true

theorem isOrdinary_values (d : Dialect) (values : List Value) :
    ∀ p ∈ (values.map Piece.value).intersperse (.text ", "), p.IsOrdinary d := by
  have hcomma : Sql.isOrdinaryText d ", " = true := by cases d <;> rfl
  induction values with
  | nil => exact nofun
  | cons v vs ih =>
      cases vs with
      | nil => simp [Piece.IsOrdinary]
      | cons w vs => simpa [Piece.IsOrdinary, hcomma] using ih

/-- A column with ordinary pieces behind it is one condition. -/
theorem exists_conjuncts_column {d : Dialect} {ps : List Piece} (hps : ∀ p ∈ ps, p.IsOrdinary d)
    (rows : Sql.Rows) (qualifier name : String) (n : Nat) :
    ∃ φ, conjuncts? (Piece.tokensOf d n (.column rows qualifier name :: ps)) = some [φ] := by
  have hall : ∀ p ∈ Piece.column rows qualifier name :: ps, p.IsOrdinary d :=
    List.forall_mem_cons.mpr ⟨trivial, hps⟩
  refine ⟨_, Sql.conjuncts_ordinary (Piece.isOrdinary_tokensOf hall n) ?_⟩
  simp [Piece.tokensOf, Piece.tokens, Sql.columnTokens]

theorem isOrdinaryText_comparison (op : Comparison) (d : Dialect) :
    Sql.isOrdinaryText d (" " ++ op.sql ++ " ") = true := by
  cases op <;> cases d <;> rfl

theorem isOrdinaryText_nullTest (negated : Bool) (d : Dialect) :
    Sql.isOrdinaryText d (nullTest negated) = true := by
  cases negated <;> cases d <;> rfl

/-- A condition without a template is written as one condition. -/
theorem exists_conjuncts {c : Condition} (h : c.isRaw = false) (d : Dialect) (frame : Frame)
    (n : Nat) : ∃ φ, conjuncts? (Piece.tokensOf d n (c.pieces frame)) = some [φ] := by
  -- a list of values and the `AND` of `BETWEEN` are all that is not ordinary
  fun_cases Condition.pieces frame c with
  | case1 column name =>
      refine exists_conjuncts_column ?_ _ _ _ _
      exact List.forall_mem_singleton.mpr (isOrdinaryText_nullTest false d)
  | case2 column name =>
      refine exists_conjuncts_column ?_ _ _ _ _
      exact List.forall_mem_singleton.mpr (isOrdinaryText_nullTest true d)
  | case3 column name op value heq hne =>
      refine exists_conjuncts_column ?_ _ _ _ _
      simpa [Piece.IsOrdinary] using isOrdinaryText_comparison op d
  | case4 column name values negated =>
      have hin : ("IN (", [.word "IN", .mark '(']) ∈ ranges := by decide
      obtain ⟨ts, hlex, hts⟩ : ∃ ts, lex d (" " ++ negation negated ++ "IN (") =
          some (ts ++ [.mark '(']) ∧ ∀ t ∈ ts, t.isOrdinary = true := by
        refine ⟨(if negated then [.word "NOT"] else []) ++ [.word "IN"], ?_, ?_⟩
        · simpa using lex_range hin negated d
        · cases negated <;> decide
      have hcolumn : ∀ t ∈ Sql.columnTokens frame.qualifier name ++ ts, t.isOrdinary = true :=
        List.forall_mem_append.mpr ⟨Sql.isOrdinary_columnTokens _ name, hts⟩
      obtain ⟨φ, hφ⟩ :=
        Sql.conjuncts_list hcolumn (Piece.isOrdinary_tokensOf (isOrdinary_values d values) n)
      refine ⟨φ, ?_⟩
      rw [← hφ]
      simp [column, Piece.tokensOf, Piece.tokensOf_append, Piece.tokens, Piece.bound, hlex]
  | case5 column name negated =>
      refine exists_conjuncts_column ?_ _ _ _ _
      exact List.forall_mem_singleton.mpr (isOrdinaryText_nullTest negated d)
  | case6 column name low high negated =>
      have hbetween : ("BETWEEN ", [.word "BETWEEN"]) ∈ ranges := by decide
      obtain ⟨ts, hlex, hts⟩ : ∃ ts, lex d (" " ++ negation negated ++ "BETWEEN ") =
          some (ts ++ [.word "BETWEEN"]) ∧ ∀ t ∈ ts, t.isOrdinary = true :=
        ⟨if negated then [.word "NOT"] else [], lex_range hbetween negated d, by
          cases negated <;> decide⟩
      have hcolumn : ∀ t ∈ Sql.columnTokens frame.qualifier name ++ ts, t.isOrdinary = true :=
        List.forall_mem_append.mpr ⟨Sql.isOrdinary_columnTokens _ name, hts⟩
      have hvalue : ∀ i, ∀ t ∈ [Token.placeholder (d.placeholder i)], t.isOrdinary = true :=
        fun i => List.forall_mem_singleton.mpr rfl
      obtain ⟨φ, hφ⟩ := Sql.conjuncts_between hcolumn (hvalue (n + 1)) (hvalue (n + 1 + 1))
      refine ⟨φ, ?_⟩
      rw [← hφ]
      simp [column, Piece.tokensOf, Piece.tokens, Piece.bound, hlex]
  | case7 column name pattern negated =>
      refine exists_conjuncts_column ?_ _ _ _ _
      have htext : Sql.isOrdinaryText d (" " ++ negation negated ++ "LIKE ") = true := by
        cases negated <;> cases d <;> rfl
      simpa [Piece.IsOrdinary] using htext
  | case8 name template params => cases h

/-- What is written for a condition is read without an `OR` outside of parentheses. -/
theorem exists_readConjuncts {d : Dialect} {frame : Frame} {n : Nat} {c : Condition}
    (h : c.Conjunctive d frame n) :
    ∃ φs, readConjuncts d (Piece.textOf d n (c.pieces frame)) = some φs := by
  cases hraw : c.isRaw with
  | true => exact Option.isSome_iff_exists.mp (h hraw)
  | false =>
      obtain ⟨φ, hφ⟩ := exists_conjuncts hraw d frame n
      have hregular := regular_pieces (templated_of_isRaw_eq_false hraw) frame
      exact ⟨[φ], Sql.readConjuncts_eq_some_iff.mpr ⟨_, hregular.lex_textOf d n, hφ⟩⟩

end Condition

/-! ## Clauses -/

/-- The tokens that name the rows of a related scope. -/
def Join.sourceTokens (d : Dialect) (inner : Frame) (join : Join) : List Token :=
  [.word "SELECT", .word "1", .word "FROM"] ++ Piece.tokensOf d 0 (join.sourcePieces inner).tail

/-- The tie to the parent row. -/
def Join.tie (d : Dialect) (outer inner : Frame) (join : Join) : Formula :=
  .test ((Piece.tokensOf d 0 (join.tiePieces outer inner)).map .token)

namespace Clause

mutual

/-- What a clause asks for, where it stands behind so many bound values: what its condition is
by itself, or that there is a row tied to the parent row that satisfies the clauses inside. -/
def formula? (d : Dialect) (frame : Frame) (n : Nat) : Clause → Option Formula
  | .condition c => read d (Piece.textOf d n (c.pieces frame))
  | .related join inner clauses => do
    let φs ← formulas? d inner n clauses
    return .exists ((join.sourceTokens d inner).map .token)
      (.conjunction (join.tie d frame inner :: φs))

/-- What clauses ask for. -/
def formulas? (d : Dialect) (frame : Frame) (n : Nat) : List Clause → Option (List Formula)
  | [] => some []
  | c :: cs => do
    let φ ← c.formula? d frame n
    let φs ← formulas? d frame (n + (Piece.boundBy (c.pieces frame)).length) cs
    return φ :: φs

end

mutual

/-- No template in a clause is read with an `OR` outside of parentheses where it stands. -/
def Conjunctive (d : Dialect) (frame : Frame) (n : Nat) : Clause → Prop
  | .condition c => c.Conjunctive d frame n
  | .related _ inner clauses => ConjunctiveEach d inner n clauses

/-- Nor is any in clauses. -/
def ConjunctiveEach (d : Dialect) (frame : Frame) (n : Nat) : List Clause → Prop
  | [] => True
  | c :: cs => c.Conjunctive d frame n ∧
    ConjunctiveEach d frame (n + (Piece.boundBy (c.pieces frame)).length) cs

end

/-- The tie to the parent row is read as one condition. -/
theorem readConjuncts_tiePieces (d : Dialect) (outer inner : Frame) (join : Join) (n : Nat) :
    readConjuncts d (Piece.textOf d n (join.tiePieces outer inner)) =
      some [join.tie d outer inner] := by
  have hregular := join.regular_tiePieces outer inner
  have hordinary : ∀ p ∈ join.tiePieces outer inner, p.IsOrdinary d := by
    have hequals : Sql.isOrdinaryText d " = " = true := by cases d <;> rfl
    unfold Join.tiePieces
    cases join.link <;> simp [Piece.IsOrdinary, hequals]
  have htie : Formula.ofItems ((Piece.tokensOf d 0 (join.tiePieces outer inner)).map .token) =
      join.tie d outer inner := by
    unfold Join.tie Join.tiePieces
    cases join.link <;>
      simp only [Piece.tokensOf, Piece.tokens, Sql.lex_equals, Option.getD_some, List.cons_append,
        List.nil_append, Sql.ofItems_columnTokens]
  refine Sql.readConjuncts_eq_some_iff.mpr ⟨_, hregular.lex_textOf d n, ?_⟩
  rw [Piece.tokensOf_of_boundBy_eq_nil hregular.bound n 0, ← htie]
  refine Sql.conjuncts_ordinary (Piece.isOrdinary_tokensOf hordinary 0) ?_
  unfold Join.tiePieces
  cases join.link <;> simp [Piece.tokensOf, Piece.tokens, Sql.columnTokens]

/-- The tokens in front of the tie. -/
theorem lex_sourcePieces (d : Dialect) (inner : Frame) (join : Join) (n : Nat) :
    lex d (Piece.textOf d n (join.sourcePieces inner)) =
      some (.word "EXISTS" :: .mark '(' :: join.sourceTokens d inner) := by
  have hregular := join.regular_sourcePieces inner
  rw [hregular.lex_textOf d n, Piece.tokensOf_of_boundBy_eq_nil hregular.bound n 0]
  rfl

/-- What stands between a join and its tie is ordinary. -/
theorem isOrdinary_sourceTokens (d : Dialect) (inner : Frame) (join : Join) :
    ∀ t ∈ join.sourceTokens d inner, t.isOrdinary = true := by
  have hordinary : ∀ p ∈ (join.sourcePieces inner).tail, p.IsOrdinary d := by
    have hinner : Sql.isOrdinaryText d " INNER JOIN " = true := by cases d <;> rfl
    have hon : Sql.isOrdinaryText d " ON " = true := by cases d <;> rfl
    have hequals : Sql.isOrdinaryText d " = " = true := by cases d <;> rfl
    unfold Join.sourcePieces
    cases join.link <;> simp [Piece.IsOrdinary, hinner, hon, hequals]
  exact List.forall_mem_append.mpr
    ⟨by decide, Piece.isOrdinary_tokensOf hordinary 0⟩

mutual

/-- A clause is read as what it asks for. -/
theorem exists_readConjuncts (d : Dialect) (frame : Frame) (n : Nat) : (c : Clause) →
    c.Conjunctive d frame n → ∃ φs φ,
      readConjuncts d (Piece.textOf d n (c.pieces frame)) = some φs ∧
      c.formula? d frame n = some φ ∧
      ∀ (ρ : Type) (I : Interpretation ρ) r, Formula.allOf I φs r = φ.value I r
  | .condition c, h => by
      obtain ⟨φs, hφs⟩ := Condition.exists_readConjuncts h
      refine ⟨φs, .all φs, hφs, ?_, fun ρ I r => (Formula.value_all I φs r).symm⟩
      rw [formula?, Sql.read_of_readConjuncts hφs]
  | .related join inner clauses, h => by
      obtain ⟨φs, ψs, hψs, hvalue, hread⟩ := exists_readConjuncts_more d inner n clauses h
      have hinside := hread _ _ (readConjuncts_tiePieces d frame inner join n)
      have hexists := Sql.readConjuncts_exists (lex_sourcePieces d inner join n)
        (isOrdinary_sourceTokens d inner join) (by simp [Join.sourceTokens]) hinside
      have htext : Piece.textOf d n (pieces frame (.related join inner clauses)) =
          Piece.textOf d n (join.sourcePieces inner) ++ " WHERE " ++
            (Piece.textOf d n (join.tiePieces frame inner) ++
              Piece.textOf d n (piecesMore inner clauses)) ++ ")" := by
        have hsource : Piece.boundBy (join.sourcePieces inner) = [] :=
          (join.regular_sourcePieces inner).bound
        have htie : Piece.boundBy (join.tiePieces frame inner) = [] :=
          (join.regular_tiePieces frame inner).bound
        simp [pieces, Piece.textOf_append, Piece.textOf, Piece.textAt, Piece.bound, hsource, htie,
          String.append_assoc]
      have hinside : ∀ (ρ : Type) (I : Interpretation ρ) r,
          (Formula.all (join.tie d frame inner :: φs)).value I r =
            (Formula.conjunction (join.tie d frame inner :: ψs)).value I r := by
        intro ρ I r
        rw [Formula.value_all, Formula.value_conjunction, Formula.allOf, Formula.allOf, hvalue]
      refine ⟨_, .exists ((join.sourceTokens d inner).map .token)
        (.conjunction (join.tie d frame inner :: ψs)), htext ▸ hexists, ?_, fun ρ I r => ?_⟩
      · simp [formula?, hψs]
      · rw [Formula.allOf, Formula.allOf, Sql.Truth.and_true, Formula.value, Formula.value]
        simp only [List.singleton_append, hinside]

/-- Further clauses are read behind any other condition as what they ask for. -/
theorem exists_readConjuncts_more (d : Dialect) (frame : Frame) (n : Nat) :
    (cs : List Clause) → ConjunctiveEach d frame n cs → ∃ φs ψs,
      formulas? d frame n cs = some ψs ∧
      (∀ (ρ : Type) (I : Interpretation ρ) r, Formula.allOf I φs r = Formula.allOf I ψs r) ∧
      ∀ s χs, readConjuncts d s = some χs →
        readConjuncts d (s ++ Piece.textOf d n (piecesMore frame cs)) = some (χs ++ φs)
  | [], _ => by
      refine ⟨[], [], rfl, fun _ _ _ => rfl, fun s χs hs => ?_⟩
      simpa [piecesMore, Piece.textOf] using hs
  | c :: cs, h => by
      rw [ConjunctiveEach] at h
      obtain ⟨φs, φ, hφs, hφ, hvalue⟩ := exists_readConjuncts d frame n c h.1
      obtain ⟨φs', ψs, hψs, hvalues, hmore⟩ := exists_readConjuncts_more d frame _ cs h.2
      refine ⟨φs ++ φs', φ :: ψs, ?_, fun ρ I r => ?_, fun s χs hs => ?_⟩
      · simp [formulas?, hφ, hψs]
      · rw [Formula.allOf_append, hvalue, hvalues, Formula.allOf]
      · have hand := Sql.readConjuncts_and hs hφs
        have hall := hmore _ _ hand
        rw [List.append_assoc] at hall
        rw [piecesMore, List.cons_append, Piece.textOf, Piece.textOf_append]
        simpa [Piece.textAt, Piece.bound, String.append_assoc] using hall

end

end Clause

/-! ## Scopes -/

namespace Scope

/-- A scope in whose templates no `OR` stands outside of parentheses is read as the conjunction
of what its clauses ask for. -/
theorem read_whereSql (s : Scope)
    (h : Clause.ConjunctiveEach s.frame.dialect s.frame 0 s.clauses) :
    ∃ φ φs, read s.frame.dialect s.whereSql.text = some φ ∧
      Clause.formulas? s.frame.dialect s.frame 0 s.clauses = some φs ∧
      ∀ (ρ : Type) (I : Interpretation ρ) r,
        φ.value I r = (Formula.conjunction φs).value I r := by
  obtain ⟨frame, clauses⟩ := s
  rw [text_whereSql]
  cases clauses with
  | nil =>
      refine ⟨.conjunction [], [], ?_, rfl, fun _ _ _ => rfl⟩
      have hlex : ∀ d, read d "TRUE" = some (.conjunction []) := by
        intro d
        cases d <;> rfl
      simpa [pieces, isEmpty, Piece.textOf, Piece.textAt] using hlex frame.dialect
  | cons c cs =>
      rw [Clause.ConjunctiveEach] at h
      obtain ⟨φs, φ, hφs, hφ, hvalue⟩ := Clause.exists_readConjuncts _ _ _ c h.1
      obtain ⟨φs', ψs, hψs, hvalues, hmore⟩ := Clause.exists_readConjuncts_more _ _ _ cs h.2
      refine ⟨.all (φs ++ φs'), φ :: ψs, ?_, ?_, fun ρ I r => ?_⟩
      · have htext : pieces ⟨frame, c :: cs⟩ = c.pieces frame ++ Clause.piecesMore frame cs := rfl
        rw [htext, Piece.textOf_append]
        exact Sql.read_of_readConjuncts (hmore _ _ hφs)
      · simp only [Clause.formulas?, hφ, hψs]
        rfl
      · rw [Formula.value_all, Formula.allOf_append, hvalue, hvalues, Formula.value_conjunction,
          Formula.allOf]

/-- Grown-up users that have one of two roles. -/
def grownUps (roles : String) : Scope :=
  ((root .postgres "users").push (.condition (.compare "age" .ge (.int 18)))).push
    (.condition (.raw "role" roles []))

section GrownUps

variable {roles : String} (h : Sql.Template.unmarked roles = true)

include h

theorem textOf_roles (n : Nat) : Piece.textOf .postgres n
    ((Condition.raw "role" roles []).pieces (.root .postgres "users")) = roles := by
  have hraw : (Condition.raw "role" roles []).pieces (.root .postgres "users") = [.text roles] :=
    Sql.Template.ofParts_unmarked h ..
  simp [hraw, Piece.textOf, Piece.textAt]

theorem text_whereSql_grownUps :
    (grownUps roles).whereSql.text = "users.age >= $1 AND " ++ roles := by
  have hpieces : (grownUps roles).pieces =
      [.column (.scope 0) "users" "age", .text " >= ", .value (.int 18), .text " AND "] ++
        (Condition.raw "role" roles []).pieces (.root .postgres "users") := by
    rw [← List.append_nil ((Condition.raw "role" roles []).pieces (.root .postgres "users"))]
    rfl
  have hage : Piece.textOf .postgres 0
      [.column (.scope 0) "users" "age", .text " >= ", .value (.int 18), .text " AND "] =
        "users.age >= $1 AND " := by decide
  have htext : Piece.textOf .postgres 0 (grownUps roles).pieces =
      "users.age >= $1 AND " ++ roles := by
    rw [hpieces, Piece.textOf_append, hage, textOf_roles h]
  rw [text_whereSql]
  exact htext

end GrownUps

/-- The scope is read as it was recorded if the roles stand in parentheses. -/
theorem read_whereSql_grownUps :
    Clause.ConjunctiveEach .postgres (.root .postgres "users") 0
        (grownUps "(role = 'owner' OR role = 'admin')").clauses ∧
      ∃ φ φs, read .postgres (grownUps "(role = 'owner' OR role = 'admin')").whereSql.text =
          some φ ∧
        Clause.formulas? .postgres (.root .postgres "users") 0
          (grownUps "(role = 'owner' OR role = 'admin')").clauses = some φs ∧
        ∀ (ρ : Type) (I : Interpretation ρ) r,
          φ.value I r = (Formula.conjunction φs).value I r := by
  have h : Clause.ConjunctiveEach .postgres (.root .postgres "users") 0
      (grownUps "(role = 'owner' OR role = 'admin')").clauses := by
    refine ⟨nofun, fun _ => ?_, trivial⟩
    rw [textOf_roles rfl]
    rfl
  exact ⟨h, read_whereSql (grownUps "(role = 'owner' OR role = 'admin')") h⟩

/-- The test of a column for a literal. -/
def roleIs (role : String) : Formula :=
  .test [.token (.word "role"), .token (.operator "="), .token (.literal role)]

/-- The test for grown-up users. -/
def ageTest : Formula :=
  .test [.token (.word "users"), .token (.mark '.'), .token (.word "age"),
    .token (.operator ">="), .token (.placeholder "$1")]

/-- A row of which nothing is known but that it is an administrator's. -/
def administrator : Interpretation Unit where
  test items _ :=
    match items.getLast? with
    | some (.token (.literal "admin")) => .true
    | _ => .false
  rows _ _ := []

/-- Without parentheses it is not: administrators are found whatever their age is. -/
theorem read_whereSql_ne_conjunction :
    ∃ φ φs, read .postgres (grownUps "role = 'owner' OR role = 'admin'").whereSql.text = some φ ∧
      Clause.formulas? .postgres (.root .postgres "users") 0
        (grownUps "role = 'owner' OR role = 'admin'").clauses = some φs ∧
      φ.value administrator () = .true ∧
      (Formula.conjunction φs).value administrator () = .false := by
  have hwhole : read .postgres (grownUps "role = 'owner' OR role = 'admin'").whereSql.text =
      some (.disjunction [.conjunction [ageTest, roleIs "owner"], roleIs "admin"]) := by
    rw [text_whereSql_grownUps rfl]
    rfl
  have hage : (Clause.condition (.compare "age" .ge (.int 18))).formula? .postgres
      (.root .postgres "users") 0 = some ageTest := by
    rfl
  have hroles : (Clause.condition (.raw "role" "role = 'owner' OR role = 'admin'" [])).formula?
      .postgres (.root .postgres "users") 1 =
        some (.disjunction [roleIs "owner", roleIs "admin"]) := by
    rw [Clause.formula?, textOf_roles rfl]
    rfl
  have hformulas : Clause.formulas? .postgres (.root .postgres "users") 0
      (grownUps "role = 'owner' OR role = 'admin'").clauses =
        some [ageTest, .disjunction [roleIs "owner", roleIs "admin"]] := by
    have hclauses : (grownUps "role = 'owner' OR role = 'admin'").clauses =
        [.condition (.compare "age" .ge (.int 18)),
          .condition (.raw "role" "role = 'owner' OR role = 'admin'" [])] := rfl
    have hbound : 0 + (Piece.boundBy ((Clause.condition (.compare "age" .ge (.int 18))).pieces
        (.root .postgres "users"))).length = 1 := rfl
    rw [hclauses, Clause.formulas?, hage, Clause.formulas?, hbound, hroles]
    rfl
  exact ⟨_, _, hwhole, hformulas, rfl, rfl⟩

end Scope

end Sift
