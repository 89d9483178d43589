import Sift.Proofs.Scope.Pieces
import Sift.Proofs.Scope.Program
import Sift.Proofs.Sql.Lexer

/-!
# Sift.Proofs.Scope.Names

What the qualifiers of columns stand for.  A name stands for the rows of the table that it
was given to in the innermost sub-query in which it was given to one; so a name that a
sub-query gives to its own table hides the same name outside.

Related scopes name their tables by their depth, so these never hide one another.  The
table of the whole query goes by its own name, whatever that is.

Main statements:

* `Join.allResolve_tiePieces` — in the tie to the parent row the qualifier of the row stands
  for it unless the related scope gives that name to a table of its own;
* `Scope.allResolve_reached_iff` — every qualifier of a query stands for the rows that it was
  recorded for exactly if no related scope next to the table does so.
-/

namespace Sift

open Sql (Piece Rows)

namespace Sql

/-! ## Names in sight -/

/-- Whether a name is one that every engine reads as it stands. -/
def isPlainName (name : String) : Bool :=
  name.toList.all fun c => c.isLower || c.isDigit || c = '_'

/-- How an engine tells names apart.  It may take large letters for small ones, or only so
in names without delimiters. -/
structure Naming where
  /-- Whether two names are the same. -/
  same : String → String → Bool
  same_self : ∀ a, same a a = true
  eq_of_same : ∀ {a b}, isPlainName a = true → isPlainName b = true → same a b = true → a = b

/-- All names are different. -/
def Naming.exact : Naming where
  same a b := a = b
  same_self := by simp
  eq_of_same := fun _ _ h => of_decide_eq_true h

/-- The names that have been given to tables and the rows that they stand for, in each
sub-query from the innermost one out. -/
abbrev Sight := List (List (String × Rows))

/-- The rows that a name stands for: in the innermost sub-query in which it is given to a
table, and to one table only. -/
def Naming.rows? (N : Naming) (name : String) : Sight → Option Rows
  | [] => none
  | level :: outer =>
    match level.filter fun entry => N.same name entry.1 with
    | [] => N.rows? name outer
    | [entry] => some entry.2
    | _ => none

namespace Piece

/-- The names in sight behind a piece. -/
def sight : Piece → Sight → Sight
  | opening, s => [] :: s
  | named name rows, level :: outer => (level ++ [(name, rows)]) :: outer
  | closing, _ :: outer => outer
  | _, s => s

def sightAfter : Sight → List Piece → Sight
  | s, [] => s
  | s, p :: ps => sightAfter (p.sight s) ps

/-- Whether the qualifier of a piece stands for the rows that are meant. -/
def resolves (N : Naming) (s : Sight) : Piece → Bool
  | column rows qualifier _ => N.rows? qualifier s = some rows
  | _ => true

/-- Whether all qualifiers do. -/
def allResolve (N : Naming) : Sight → List Piece → Bool
  | _, [] => true
  | s, p :: ps => p.resolves N s && allResolve N (p.sight s) ps

@[simp] theorem sight_text (sql : String) (s : Sight) : (text sql).sight s = s := rfl

@[simp] theorem sight_column (rows : Rows) (qualifier name : String) (s : Sight) :
    (column rows qualifier name).sight s = s := rfl

@[simp] theorem resolves_text (N : Naming) (sql : String) (s : Sight) :
    (text sql).resolves N s = true := rfl

/-- What is in sight behind pieces follows from the pieces in turn. -/
theorem sightAfter_append (s : Sight) (ps qs : List Piece) :
    sightAfter s (ps ++ qs) = sightAfter (sightAfter s ps) qs := by
  induction ps generalizing s with
  | nil => rfl
  | cons p ps ih => exact ih (p.sight s)

/-- Pieces resolve if both parts do, the second with what the first brings into sight. -/
theorem allResolve_append (N : Naming) (s : Sight) (ps qs : List Piece) :
    allResolve N s (ps ++ qs) = (allResolve N s ps && allResolve N (sightAfter s ps) qs) := by
  induction ps generalizing s with
  | nil => rfl
  | cons p ps ih => rw [List.cons_append, allResolve, ih, allResolve, sightAfter, Bool.and_assoc]

/-! ## Conditions -/

/-- A piece that names no rows but those of a frame. -/
def Within (frame : Frame) : Piece → Prop
  | text _ | value _ => True
  | column rows qualifier _ => rows = .scope frame.depth ∧ qualifier = frame.qualifier
  | _ => False

theorem within_ofChunks (frame : Frame) (chunks : List (List Char)) (params : List Value) :
    ∀ p ∈ (ofChunks chunks params).1, p.Within frame := by
  fun_induction ofChunks chunks params with
  | case1 params => exact fun p hp => nomatch hp
  | case2 params chunk => simp [Within]
  | case3 chunk chunks hne ps left heq ih => simp_all [Within]
  | case4 chunk chunks v params hne ps left heq ih => simp_all [Within]

/-- A template names no rows but those of its frame. -/
theorem within_ofParts (frame : Frame) (name : String) (parts : List (List Char))
    (params : List Value) :
    ∀ p ∈ ofParts (.scope frame.depth) frame.qualifier name parts params, p.Within frame := by
  fun_induction ofParts (.scope frame.depth) frame.qualifier name parts params with
  | case1 params => exact fun p hp => nomatch hp
  | case2 part params => exact within_ofChunks frame _ params
  | case3 part parts params hne ps left heq ih =>
      have hpart := within_ofChunks frame (Text.split '?' [] part) params
      rw [heq] at hpart
      intro p hp
      rcases List.mem_append.mp hp with hp | hp
      · exact hpart p hp
      · rcases List.mem_cons.mp hp with rfl | hp
        · exact ⟨rfl, rfl⟩
        · exact ih p hp

/-- Pieces that name no rows but those of a frame stand for what is meant where the rows are
found by their name, and leave the names in sight alone. -/
theorem allResolve_of_within {N : Naming} {frame : Frame} {s : Sight} {ps : List Piece}
    (hs : N.rows? frame.qualifier s = some (.scope frame.depth))
    (h : ∀ p ∈ ps, p.Within frame) : allResolve N s ps = true ∧ sightAfter s ps = s := by
  induction ps with
  | nil => exact ⟨rfl, rfl⟩
  | cons p ps ih =>
      obtain ⟨hrest, hsight⟩ := ih fun q hq => h q (List.mem_cons_of_mem _ hq)
      have hp := h p (List.mem_cons_self ..)
      rw [allResolve, sightAfter]
      cases p with
      | text | value => exact ⟨hrest, hsight⟩
      | column rows qualifier name =>
          obtain ⟨rfl, rfl⟩ := hp
          rw [resolves, hs, decide_eq_true rfl]
          exact ⟨hrest, hsight⟩
      | table | opening | named | closing => cases hp

end Piece

end Sql

/-- A condition names no rows but those of its frame. -/
theorem Condition.within_pieces (frame : Frame) (c : Condition) :
    ∀ p ∈ c.pieces frame, p.Within frame := by
  fun_cases Condition.pieces frame c with
  | case4 column name values negated =>
      intro p hp
      have hmem : ∀ (vs : List Value), ∀ p ∈ (vs.map Piece.value).intersperse (.text ", "),
          p.Within frame := by
        intro vs
        induction vs with
        | nil => simp
        | cons v vs ih =>
            cases vs with
            | nil => simp [Piece.Within]
            | cons w vs => simpa [Piece.Within] using ih
      simp only [List.cons_append, List.nil_append, List.mem_cons, List.mem_append,
        List.not_mem_nil, or_false] at hp
      rcases hp with rfl | rfl | hp | rfl
      · exact ⟨rfl, rfl⟩
      · exact trivial
      · exact hmem values p hp
      · exact trivial
  | case8 name template params => exact Piece.within_ofParts frame name _ params
  | case1 column name => simp [column, Piece.Within]
  | case2 column name => simp [column, Piece.Within]
  | case3 column name op value heq hne => simp [column, Piece.Within]
  | case5 column name negated => simp [column, Piece.Within]
  | case6 column name low high negated => simp [column, Piece.Within]
  | case7 column name pattern negated => simp [column, Piece.Within]

/-! ## The names that related scopes give -/

/-- Numbers are told apart by their digits. -/
theorem toString_nat_injective {m n : Nat} (h : toString m = toString n) : m = n := by
  have hdigits : Nat.toDigits 10 m = Nat.toDigits 10 n := String.ofList_injective h
  rw [← Nat.ofDigitChars_toDigits (b := 10) (n := m) (by decide) (by decide), hdigits,
    Nat.ofDigitChars_toDigits (by decide) (by decide)]

@[simp] theorem Frame.depth_related (f : Frame) (join : Join) :
    (f.related join).depth = f.depth + 1 := rfl

/-- Related scopes of different depths go by different names, which no link table goes by. -/
theorem alias_inj {m n : Nat} (h : "r" ++ toString m = "r" ++ toString n) : m = n :=
  toString_nat_injective (String.append_right_inj "r" |>.mp h)

/-- No alias is the name of a link table. -/
theorem alias_ne_link (m n : Nat) : "r" ++ toString m ≠ "r" ++ toString n ++ "_pivot" := by
  intro h
  have hmem : '_' ∈ ("r" ++ toString m).toList := by
    rw [h]
    simp
  simp at hmem

/-- An alias needs no quoting in any dialect. -/
theorem isPlainName_alias (n : Nat) : Sql.isPlainName ("r" ++ toString n) = true := by
  have hdigits : ∀ c ∈ (toString n).toList, c.isDigit = true :=
    fun c hc => Sql.isDigit_of_mem_toString hc
  simp only [Sql.isPlainName, String.toList_append, List.all_append, Bool.and_eq_true]
  exact ⟨rfl, List.all_eq_true.mpr fun c hc => by simp [hdigits c hc]⟩

theorem isPlainName_link (n : Nat) : Sql.isPlainName ("r" ++ toString n ++ "_pivot") = true := by
  have halias := isPlainName_alias n
  simp only [Sql.isPlainName] at halias
  rw [Sql.isPlainName, String.toList_append, List.all_append, halias]
  rfl

namespace Sql.Naming

variable (N : Naming)

/-- Aliases of different levels are different names, however names are compared. -/
theorem same_alias_of_ne {m n : Nat} (h : m ≠ n) :
    N.same ("r" ++ toString m) ("r" ++ toString n) = false := by
  cases hsame : N.same ("r" ++ toString m) ("r" ++ toString n) with
  | false => rfl
  | true =>
      exact absurd (alias_inj (N.eq_of_same (isPlainName_alias m) (isPlainName_alias n) hsame)) h

/-- So are an alias and the name of a link table. -/
theorem same_alias_link (m n : Nat) :
    N.same ("r" ++ toString m) ("r" ++ toString n ++ "_pivot") = false := by
  cases hsame : N.same ("r" ++ toString m) ("r" ++ toString n ++ "_pivot") with
  | false => rfl
  | true =>
      exact absurd (N.eq_of_same (isPlainName_alias m) (isPlainName_link n) hsame)
        (alias_ne_link m n)

theorem same_link_alias (m n : Nat) :
    N.same ("r" ++ toString m ++ "_pivot") ("r" ++ toString n) = false := by
  cases hsame : N.same ("r" ++ toString m ++ "_pivot") ("r" ++ toString n) with
  | false => rfl
  | true =>
      exact absurd (N.eq_of_same (isPlainName_link m) (isPlainName_alias n) hsame).symm
        (alias_ne_link n m)

end Sql.Naming

/-! ## Joins -/

open Sql (Naming Sight)

namespace Join

/-- The names in sight in a related scope that are not in sight around it. -/
def level (inner : Frame) (join : Join) : List (String × Rows) :=
  (inner.qualifier, .scope inner.depth) ::
    match join.link with
    | none => []
    | some _ => [(inner.linkAlias, .link inner.depth)]

/-- Whether a related scope gives its tables a name that is in use around it. -/
def hides (N : Naming) (inner : Frame) (join : Join) (name : String) : Bool :=
  N.same name inner.qualifier || join.link.isSome && N.same name inner.linkAlias

/-- A join hides a name exactly if its rows or its link table go by it. -/
theorem hides_eq_false_iff {N : Naming} {inner : Frame} {join : Join} {name : String} :
    join.hides N inner name = false ↔ N.same name inner.qualifier = false ∧
      (join.link.isSome = true → N.same name inner.linkAlias = false) := by
  unfold hides
  cases join.link <;> simp

/-- A join brings its rows into sight, in front of everything else. -/
theorem sightAfter_sourcePieces (s : Sight) (inner : Frame) (join : Join) :
    Piece.sightAfter s (join.sourcePieces inner) = join.level inner :: s := by
  unfold sourcePieces level
  cases join.link <;> rfl

variable (N : Naming) (s : Sight) (frame : Frame) (join : Join)

/-- The rows of a related scope are found by its name. -/
theorem rows?_qualifier :
    N.rows? (frame.related join).qualifier (join.level (frame.related join) :: s) =
      some (.scope (frame.depth + 1)) := by
  have hself := N.same_self (frame.related join).qualifier
  have hlink : N.same (frame.related join).qualifier (frame.related join).linkAlias = false :=
    N.same_alias_link _ _
  unfold level
  cases join.link <;> simp [Naming.rows?, hself, hlink]

/-- So are those of its link table. -/
theorem rows?_linkAlias {link : LinkTable} (h : join.link = some link) :
    N.rows? (frame.related join).linkAlias (join.level (frame.related join) :: s) =
      some (.link (frame.depth + 1)) := by
  have hself := N.same_self (frame.related join).linkAlias
  have halias : N.same (frame.related join).linkAlias (frame.related join).qualifier = false :=
    N.same_link_alias _ _
  unfold level
  simp [Naming.rows?, h, hself, halias]

/-- The rows around a related scope are found by their name unless the scope hides it. -/
theorem rows?_outer {name : String} {depth : Nat} (hs : N.rows? name s = some (.scope depth))
    (hdepth : depth ≤ frame.depth) :
    N.rows? name (join.level (frame.related join) :: s) = some (.scope depth) ↔
      join.hides N (frame.related join) name = false := by
  have hne : frame.depth + 1 ≠ depth := by omega
  unfold level hides
  cases join.link <;> cases hself : N.same name (frame.related join).qualifier <;>
    cases hlink : N.same name (frame.related join).linkAlias <;>
    simp [Naming.rows?, hself, hlink, hs, hne]

/-- Up to the tie all qualifiers stand for what is meant. -/
theorem allResolve_sourcePieces :
    Piece.allResolve N s (join.sourcePieces (frame.related join)) = true := by
  cases hlink : join.link with
  | none =>
      rw [sourcePieces, hlink]
      rfl
  | some link =>
      have hsource : join.sourcePieces (frame.related join) =
          [.opening, .table join.relatedTable,
            .named (frame.related join).qualifier (.scope (frame.depth + 1)), .text " INNER JOIN ",
            .table link.table, .named (frame.related join).linkAlias (.link (frame.depth + 1)),
            .text " ON "] ++
          [.column (.link (frame.depth + 1)) (frame.related join).linkAlias link.targetColumn,
            .text " = ",
            .column (.scope (frame.depth + 1)) (frame.related join).qualifier
              join.relatedColumn] := by
        rw [sourcePieces, hlink]
        rfl
      have hsight : Piece.sightAfter s
          [.opening, .table join.relatedTable,
            .named (frame.related join).qualifier (.scope (frame.depth + 1)), .text " INNER JOIN ",
            .table link.table, .named (frame.related join).linkAlias (.link (frame.depth + 1)),
            .text " ON "] = join.level (frame.related join) :: s := by
        rw [level, hlink]
        rfl
      rw [hsource, Piece.allResolve_append, hsight]
      simp [Piece.allResolve, Piece.resolves, Piece.sight, rows?_linkAlias N s frame join hlink,
        rows?_qualifier N s frame join]

/-- In the tie the qualifier of the parent row stands for the row unless its name is
hidden. -/
theorem allResolve_tiePieces (hs : N.rows? frame.qualifier s = some (.scope frame.depth)) :
    Piece.allResolve N (join.level (frame.related join) :: s)
        (.text " WHERE " :: join.tiePieces frame (frame.related join)) =
      !join.hides N (frame.related join) frame.qualifier := by
  have hparent : (Piece.column (.scope frame.depth) frame.qualifier join.parentColumn).resolves N
      (join.level (frame.related join) :: s) =
        !join.hides N (frame.related join) frame.qualifier := by
    have houter := rows?_outer N s frame join hs (Nat.le_refl _)
    rw [Piece.resolves]
    cases hhides : join.hides N (frame.related join) frame.qualifier <;> simp [houter, hhides]
  rw [← hparent]
  cases hlink : join.link with
  | none =>
      have hfirst : (Piece.column (.scope (frame.depth + 1))
          (frame.related join).qualifier join.relatedColumn).resolves N
            (join.level (frame.related join) :: s) = true :=
        decide_eq_true (rows?_qualifier N s frame join)
      rw [tiePieces, hlink]
      simp [Piece.allResolve, hfirst]
  | some link =>
      have hfirst : (Piece.column (.link (frame.depth + 1))
          (frame.related join).linkAlias link.sourceColumn).resolves N
            (join.level (frame.related join) :: s) = true :=
        decide_eq_true (rows?_linkAlias N s frame join hlink)
      rw [tiePieces, hlink]
      simp [Piece.allResolve, hfirst]

end Join

/-! ## Clauses -/

namespace Clause

/-- Clauses are nested one by one. -/
theorem nested_of_mem {frame : Frame} {cs : List Clause} (h : NestedEach frame cs) {c : Clause}
    (hc : c ∈ cs) : c.Nested frame := by
  induction cs with
  | nil => cases hc
  | cons d cs ih =>
      rw [NestedEach] at h
      rcases List.mem_cons.mp hc with rfl | hc
      · exact h.1
      · exact ih h.2 hc

/-- Whether a clause hides a name that is in use around it. -/
def hides (N : Naming) (name : String) : Clause → Bool
  | .condition _ => false
  | .related join inner _ => join.hides N inner name

/-- In a related scope no clause hides the name of its rows. -/
theorem hides_eq_false (N : Naming) {outer : Frame} {join : Join} {c : Clause}
    (hc : c.Nested (outer.related join)) : c.hides N (outer.related join).qualifier = false := by
  cases c with
  | condition c => rfl
  | related inside inner clauses =>
      rw [Nested] at hc
      obtain ⟨rfl, -⟩ := hc
      have halias : N.same (outer.related join).qualifier
          ((outer.related join).related inside).qualifier = false :=
        N.same_alias_of_ne (Nat.ne_of_lt (Nat.lt_succ_self _))
      have hlink : N.same (outer.related join).qualifier
          ((outer.related join).related inside).linkAlias = false :=
        N.same_alias_link _ _
      exact Join.hides_eq_false_iff.mpr ⟨halias, fun _ => hlink⟩

mutual

/-- The qualifiers of a clause stand for what is meant unless it hides the name of the rows
that it is about. -/
theorem allResolve_pieces (N : Naming) (frame : Frame) : (c : Clause) → c.Nested frame →
    (s : Sight) → N.rows? frame.qualifier s = some (.scope frame.depth) →
    Piece.allResolve N s (c.pieces frame) = !c.hides N frame.qualifier ∧
      Piece.sightAfter s (c.pieces frame) = s
  | .condition c, _, s, hs => Piece.allResolve_of_within hs (c.within_pieces frame)
  | .related join inner clauses, hc, s, hs => by
      rw [Nested] at hc
      obtain ⟨rfl, hclauses⟩ := hc
      have hinner := join.rows?_qualifier N s frame
      obtain ⟨hmore, hsight⟩ :=
        allResolve_piecesMore N (frame.related join) clauses hclauses _ hinner
      have hall : clauses.all (fun c => !c.hides N (frame.related join).qualifier) = true := by
        rw [List.all_eq_true]
        intro c hc
        rw [hides_eq_false N (nested_of_mem hclauses hc), Bool.not_false]
      have htie : Piece.sightAfter (join.level (frame.related join) :: s)
          (.text " WHERE " :: join.tiePieces frame (frame.related join)) =
            join.level (frame.related join) :: s := by
        rw [Join.tiePieces]
        cases join.link <;> rfl
      rw [pieces]
      simp only [Piece.allResolve_append, Piece.sightAfter_append, join.sightAfter_sourcePieces,
        join.allResolve_sourcePieces, join.allResolve_tiePieces N s frame hs, htie, hmore, hall,
        hsight, Bool.true_and, Bool.and_true]
      exact ⟨Bool.and_true _, rfl⟩

/-- The same goes for clauses behind others. -/
theorem allResolve_piecesMore (N : Naming) (frame : Frame) : (cs : List Clause) →
    NestedEach frame cs → (s : Sight) →
    N.rows? frame.qualifier s = some (.scope frame.depth) →
    Piece.allResolve N s (piecesMore frame cs) = cs.all (fun c => !c.hides N frame.qualifier) ∧
      Piece.sightAfter s (piecesMore frame cs) = s
  | [], _, s, _ => ⟨rfl, rfl⟩
  | c :: cs, h, s, hs => by
      rw [NestedEach] at h
      obtain ⟨hc, hcs⟩ := h
      obtain ⟨hfirst, hsight⟩ := allResolve_pieces N frame c hc s hs
      obtain ⟨hrest, hsight'⟩ := allResolve_piecesMore N frame cs hcs s hs
      rw [piecesMore, List.cons_append, Piece.allResolve, Piece.sightAfter, Piece.sight_text,
        Piece.allResolve_append, Piece.sightAfter_append, hfirst, hsight, hrest, hsight']
      exact ⟨rfl, rfl⟩

end

/-- So do the qualifiers of clauses with `AND` between any two. -/
theorem allResolve_piecesOf (N : Naming) (frame : Frame) (cs : List Clause)
    (h : NestedEach frame cs) (s : Sight)
    (hs : N.rows? frame.qualifier s = some (.scope frame.depth)) :
    Piece.allResolve N s (piecesOf frame cs) = cs.all fun c => !c.hides N frame.qualifier := by
  cases cs with
  | nil => rfl
  | cons c cs =>
      rw [NestedEach] at h
      obtain ⟨hfirst, hsight⟩ := allResolve_pieces N frame c h.1 s hs
      obtain ⟨hrest, -⟩ := allResolve_piecesMore N frame cs h.2 s hs
      rw [piecesOf, Piece.allResolve_append, hfirst, hsight, hrest]
      rfl

end Clause

/-! ## What a host can make -/

namespace Scope

/-- Whether every qualifier in the condition of a scope stands for the rows that it was
recorded for, in a statement that selects from the table of the scope. -/
def allResolve (N : Naming) (s : Scope) : Bool :=
  Piece.allResolve N [[(s.frame.table, .scope s.frame.depth)]] s.pieces

/-- Every qualifier of a query stands for the rows that it was recorded for exactly if no
related scope next to the table gives its own tables the name of the table. -/
theorem allResolve_reached_iff (N : Naming) (d : Dialect) (table : String) (p : Program) :
    (p.reached d table).whereSql = Piece.writeAll (p.reached d table).pieces (.empty d) ∧
      ((p.reached d table).allResolve N = true ↔
        ∀ join frame clauses, .related join frame clauses ∈ (p.reached d table).clauses →
          N.same table "r1" = false ∧
            (join.link.isSome = true → N.same table "r1_pivot" = false)) := by
  rw [Program.reached_eq]
  refine ⟨whereSql_eq _, ?_⟩
  have hnested := p.nested_clauses (.root d table)
  generalize p.clauses (.root d table) = cs at hnested
  have hs : N.rows? (Frame.root d table).qualifier [[(table, .scope 0)]] = some (.scope 0) := by
    have hself : N.same (Frame.root d table).qualifier table = true := N.same_self table
    simp [Naming.rows?, hself]
  have hpieces : allResolve N ⟨.root d table, cs⟩ = cs.all fun c => !c.hides N table := by
    cases cs with
    | nil => rfl
    | cons c cs => exact Clause.allResolve_piecesOf N (.root d table) (c :: cs) hnested _ hs
  have hqualifier : ∀ join, ((Frame.root d table).related join).qualifier = "r1" := by
    intro join
    show "r" ++ toString (0 + 1) = "r1"
    rfl
  have hlink : ∀ join, ((Frame.root d table).related join).linkAlias = "r1_pivot" := by
    intro join
    show "r" ++ toString (0 + 1) ++ "_pivot" = "r1_pivot"
    rfl
  rw [hpieces, List.all_eq_true]
  constructor
  · intro h join frame clauses hmem
    have hhides := h _ hmem
    have hframe := Clause.nested_of_mem hnested hmem
    rw [Clause.Nested] at hframe
    rwa [hframe.1, Clause.hides, Bool.not_eq_true', Join.hides_eq_false_iff, hqualifier, hlink]
      at hhides
  · intro h c hc
    cases c with
    | condition c => rfl
    | related join frame clauses =>
        have hframe := Clause.nested_of_mem hnested hc
        rw [Clause.Nested] at hframe
        rw [hframe.1, Clause.hides, Bool.not_eq_true', Join.hides_eq_false_iff, hqualifier, hlink]
        exact h join frame clauses hc

/-- A query for the rows of a table that have a related row. -/
def Program.withRelated (join : Join) : Program := .related join .done fun _ => .done

/-- The qualifier of the parent row is not found where the table goes by the name of the
related scope. -/
theorem not_allResolve_withRelated :
    ((Program.withRelated (.has "posts" .oneToMany "posts" "user_id" "id")).reached
        .postgres "r1").allResolve .exact = false ∧
      ((Program.withRelated (.has "posts" .oneToMany "posts" "user_id" "id")).reached
        .postgres "r1").whereSql.text =
        "EXISTS (SELECT 1 FROM posts AS r1 WHERE r1.user_id = r1.id)" := by
  decide

end Scope

end Sift
