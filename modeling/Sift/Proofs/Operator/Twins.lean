import Sift.Proofs.Operator.Template
import Sift.Proofs.Pattern.Escapes

/-!
# Sift.Proofs.Operator.Twins

The pattern operators on SQLite that tell large letters from small ones, beside those that take
them for the same.  The first make a GLOB pattern and the others a LIKE pattern of the same text.

Main statement: `selects_of_selects_iff` — what the first selects the other selects too, exactly
if no backslash in the LIKE pattern has a character behind it.
-/

namespace Sift

open Pattern (Like Glob toGlob)
open Sql (Fragment Piece Token columnTokens lex)

/-! ## What a statement selects -/

/-- A text in a column passes the test of a statement, as SQLite reads it. -/
inductive Sql.Passes (column : List Token) (f : Fragment) (s : String) : Prop
  | like {p : String}
      (htokens : lex .sqlite f.text = some (column ++ [.word "LIKE", .placeholder "?"]))
      (hparams : f.params = [.text p]) (h : Like .sqlite p.toList s.toList)
  | glob {p : String}
      (htokens : lex .sqlite f.text = some (column ++ [.word "GLOB", .placeholder "?"]))
      (hparams : f.params = [.text p]) (h : Glob p.toList s.toList)

namespace Sql

variable {column : List Token} {f : Fragment} {p s : String}

/-- A statement with `LIKE` lets a text through exactly if the pattern is like it. -/
theorem passes_like_iff
    (htokens : lex .sqlite f.text = some (column ++ [.word "LIKE", .placeholder "?"]))
    (hparams : f.params = [.text p]) : Passes column f s ↔ Like .sqlite p.toList s.toList := by
  constructor
  · intro h
    cases h with
    | like _ hparams' h =>
        cases hparams.symm.trans hparams'
        exact h
    | glob htokens' =>
        have heq := List.append_cancel_left (Option.some.inj (htokens.symm.trans htokens'))
        exact absurd heq (by decide)
  · exact .like htokens hparams

/-- A statement with `GLOB` lets a text through exactly if the pattern globs it. -/
theorem passes_glob_iff
    (htokens : lex .sqlite f.text = some (column ++ [.word "GLOB", .placeholder "?"]))
    (hparams : f.params = [.text p]) : Passes column f s ↔ Glob p.toList s.toList := by
  constructor
  · intro h
    cases h with
    | like htokens' =>
        have heq := List.append_cancel_left (Option.some.inj (htokens.symm.trans htokens'))
        exact absurd heq (by decide)
    | glob _ hparams' h =>
        cases hparams.symm.trans hparams'
        exact h
  · exact .glob htokens hparams

end Sql

namespace Condition

/-- A text in the column of a condition passes the test of a scope that asks for the condition
only. -/
def Selects (frame : Frame) (c : Condition) (s : String) : Prop :=
  Sql.Passes (columnTokens frame.qualifier c.column) (Scope.whereSql ⟨frame, [.condition c]⟩) s

/-- A pattern that tells large letters from small ones, as it is written for SQLite. -/
def glob (column p : String) : Condition := .raw column (columnMark ++ " GLOB ?") [.text p]

variable {frame : Frame} {column p s : String}

theorem pieces_glob : (glob column p).pieces frame =
    [.text "", .column (.scope frame.depth) frame.qualifier column, .text " GLOB ",
      .value (.text p), .text ""] := by
  have htemplate : columnMark ++ " GLOB ?" = (⟨"", " GLOB ", ""⟩ : Sql.Template).text := by decide
  rw [glob, pieces, htemplate]
  exact Sql.Template.ofParts_text (by decide) ..

/-- The statement of a pattern is the column, `LIKE` and a placeholder. -/
theorem lex_whereSql_like (hframe : frame.dialect = .sqlite) :
    lex .sqlite (Scope.whereSql ⟨frame, [.condition (.like column p false)]⟩).text =
      some (columnTokens frame.qualifier column ++ [.word "LIKE", .placeholder "?"]) := by
  have htext : (Scope.whereSql ⟨frame, [.condition (.like column p false)]⟩).text =
      Dialect.sqlite.quoteIdentifier frame.qualifier ++ "." ++
        Dialect.sqlite.quoteIdentifier column ++ " LIKE ?" := by
    rw [Scope.text_whereSql, hframe]
    simp [Scope.pieces, Scope.isEmpty, Clause.piecesOf, Clause.pieces, Clause.piecesMore, pieces,
      Piece.textOf, Piece.textAt, negation, Dialect.placeholder, String.append_assoc]
  rw [htext]
  exact Sql.lex_append (Sql.lex_column ..) rfl (.inr rfl)

/-- The statement of a glob is the column, `GLOB` and a placeholder. -/
theorem lex_whereSql_glob (hframe : frame.dialect = .sqlite) :
    lex .sqlite (Scope.whereSql ⟨frame, [.condition (glob column p)]⟩).text =
      some (columnTokens frame.qualifier column ++ [.word "GLOB", .placeholder "?"]) := by
  have htext : (Scope.whereSql ⟨frame, [.condition (glob column p)]⟩).text =
      Dialect.sqlite.quoteIdentifier frame.qualifier ++ "." ++
        Dialect.sqlite.quoteIdentifier column ++ " GLOB ?" := by
    rw [Scope.text_whereSql, hframe]
    simp [Scope.pieces, Scope.isEmpty, Clause.piecesOf, Clause.pieces, Clause.piecesMore,
      pieces_glob, Piece.textOf, Piece.textAt, Dialect.placeholder, String.append_assoc]
  rw [htext]
  exact Sql.lex_append (Sql.lex_column ..) rfl (.inr rfl)

theorem params_whereSql_glob :
    (Scope.whereSql ⟨frame, [.condition (glob column p)]⟩).params = [.text p] := by
  rw [Scope.params_whereSql]
  simp [Scope.pieces, Scope.isEmpty, Clause.piecesOf, Clause.pieces, Clause.piecesMore,
    pieces_glob, Piece.bound]

/-- So a condition on a pattern selects the texts that the pattern is like. -/
theorem selects_like_iff (hframe : frame.dialect = .sqlite) :
    (Condition.like column p false).Selects frame s ↔ Like .sqlite p.toList s.toList :=
  Sql.passes_like_iff (lex_whereSql_like hframe) rfl

/-- And a condition on a glob selects those that it globs. -/
theorem selects_glob_iff (hframe : frame.dialect = .sqlite) :
    (glob column p).Selects frame s ↔ Glob p.toList s.toList :=
  Sql.passes_glob_iff (lex_whereSql_glob hframe) params_whereSql_glob

end Condition

/-! ## Twins -/

namespace Operator

/-- The operator for the same patterns that takes large and small letters for the same, of one
that tells them apart. -/
def loose? : Operator → Option Operator
  | .likeCaseSensitive => some .like
  | .containsCaseSensitive => some .contains
  | .startsWithCaseSensitive => some .startsWith
  | .endsWithCaseSensitive => some .endsWith
  | _ => none

/-- The LIKE pattern that an operator makes of a text. -/
def pattern (op : Operator) (t : String) : String :=
  match op with
  | .contains | .notContains | .containsCaseSensitive | .notContainsCaseSensitive =>
    "%" ++ t ++ "%"
  | .startsWith | .startsWithCaseSensitive => t ++ "%"
  | .endsWith | .endsWithCaseSensitive => "%" ++ t
  | _ => t

/-- On SQLite twins make a GLOB pattern and a LIKE pattern of the same text. -/
theorem build_twins {strict loose : Operator} (htwins : strict.loose? = some loose)
    (symbol column : String) {vs : List Value} {t : String} (ht : Arguments.text vs = .ok t) :
    strict.build ⟨symbol, column, vs, .sqlite⟩ =
        .ok (.glob column (String.ofList (toGlob (strict.pattern t).toList))) ∧
      loose.build ⟨symbol, column, vs, .sqlite⟩ = .ok (.like column (strict.pattern t) false) := by
  cases strict with
  | likeCaseSensitive | containsCaseSensitive | startsWithCaseSensitive | endsWithCaseSensitive =>
      cases htwins
      exact ⟨Invocation.fit_bind_of_ok ht _, Invocation.fit_bind_of_ok ht _⟩
  | _ => cases htwins

/-- On SQLite an operator that tells large letters from small ones selects nothing that its twin
does not select, exactly if no backslash in the pattern has a character behind it. -/
theorem selects_of_selects_iff {strict loose : Operator} (htwins : strict.loose? = some loose)
    {vs : List Value} {t : String} (ht : Arguments.text vs = .ok t) {frame : Frame}
    (hframe : frame.dialect = .sqlite) (strictSymbol looseSymbol column : String) :
    ∃ c d, strict.build ⟨strictSymbol, column, vs, .sqlite⟩ = .ok c ∧
      loose.build ⟨looseSymbol, column, vs, .sqlite⟩ = .ok d ∧
      ((∀ s, c.Selects frame s → d.Selects frame s) ↔
        '\\' ∉ (strict.pattern t).toList.dropLast) := by
  refine ⟨_, _, (build_twins htwins strictSymbol column ht).1,
    (build_twins htwins looseSymbol column ht).2, ?_⟩
  rw [← Pattern.like_of_glob_toGlob_iff]
  simp only [Condition.selects_glob_iff hframe, Condition.selects_like_iff hframe,
    String.toList_ofList]
  exact ⟨fun h s => by simpa using h (String.ofList s), fun h s => h s.toList⟩

/-- A backslash behind which nothing stands is the same in both patterns. -/
theorem selects_endsWith_backslash :
    Operator.endsWithCaseSensitive.loose? = some .endsWith ∧
      Arguments.text [.text "C:\\"] = .ok "C:\\" ∧
      ∃ c d,
        Operator.endsWithCaseSensitive.build ⟨"$endsWithc", "path", [.text "C:\\"], .sqlite⟩ =
          .ok c ∧
        Operator.endsWith.build ⟨"$endsWith", "path", [.text "C:\\"], .sqlite⟩ = .ok d ∧
        ∀ s, c.Selects (.root .sqlite "files") s → d.Selects (.root .sqlite "files") s := by
  have htwins : Operator.endsWithCaseSensitive.loose? = some .endsWith := rfl
  have ht : Arguments.text [.text "C:\\"] = .ok "C:\\" := rfl
  have hframe : (Frame.root .sqlite "files").dialect = .sqlite := rfl
  obtain ⟨c, d, hc, hd, hiff⟩ :=
    selects_of_selects_iff htwins ht hframe "$endsWithc" "$endsWith" "path"
  exact ⟨htwins, ht, c, d, hc, hd, hiff.mpr (by decide)⟩

/-- Where the text that is looked for ends with a backslash, that takes the wildcard behind it by
itself in one pattern only. -/
theorem not_selects_contains_backslash : ∃ c d,
    Operator.containsCaseSensitive.build ⟨"$containsc", "path", [.text "C:\\"], .sqlite⟩ =
      .ok c ∧
    Operator.contains.build ⟨"$contains", "path", [.text "C:\\"], .sqlite⟩ = .ok d ∧
    c.Selects (.root .sqlite "files") "C:%" ∧ ¬ d.Selects (.root .sqlite "files") "C:%" := by
  refine ⟨_, _, rfl, rfl, ?_, ?_⟩
  · refine (Condition.selects_glob_iff rfl).mpr (.any (List.suffix_refl _) ?_)
    exact .literal (by decide) (by decide) (by decide) <|
      .literal (by decide) (by decide) (by decide) <|
        .literal (by decide) (by decide) (by decide) .done
  · intro h
    have hle := Pattern.count_le_of_like ((Condition.selects_like_iff rfl).mp h)
    exact absurd hle (by decide)

end Operator

end Sift
