import Sift.Proofs.Sql.Identifiers
import Sift.Proofs.Sql.Lexer

/-!
# Sift.Proofs.Sql.Columns

Columns told from their text.  Whatever a column and its qualifier are called, both can be
recovered from what is written for them: names that hold dots, blanks or delimiters, reserved
words, and the empty name, for which nothing is written.  What stands behind may be anything
that begins with a blank or a mark.

The texts are not read as an engine reads them, which refuses some bare names
(`Sift.Proofs.Sql.Identifiers`); they are only told apart.

Main statements:

* `decodeIdentifier_append`, `eq_of_decodeIdentifier` — the text of a name is decoded as the
  name, and no other text is;
* `decodeColumn_eq_some_iff` — the same of columns;
* `decodable` — columns are recovered from what is written, so no two are written alike.
-/

namespace Sift

namespace Sql

/-! ## Decoders -/

/-- Take a name off the front of a text: between delimiters if one opens the text, and bare
otherwise.  A name that would not be written in this way is refused. -/
def decodeIdentifier (d : Dialect) (text : List Char) : Option (String × List Char) :=
  if text.head? = some d.opening then
    (undouble d.closing text.tail).bind fun r =>
      let name := String.ofList r.1
      if needsQuoting name then some (name, r.2) else none
  else
    let name := String.ofList (text.takeWhile isBare)
    if needsQuoting name then none else some (name, text.dropWhile isBare)

/-- Take a name, a dot and another name off the front of a text. -/
def decodeColumn (d : Dialect) (text : List Char) : Option (String × String × List Char) := do
  let (qualifier, rest) ← decodeIdentifier d text
  match rest with
  | '.' :: rest =>
    let (column, rest) ← decodeIdentifier d rest
    return (qualifier, column, rest)
  | _ => none

/-! ## What may stand behind a name -/

/-- Nothing, or a text that begins with a blank or a mark. -/
def Apart (rest : List Char) : Prop := ∀ c ∈ rest.head?, isBreak c = true

theorem apart_nil : Apart [] := nofun

theorem apart_cons {c : Char} (h : isBreak c = true) (cs : List Char) : Apart (c :: cs) := by
  simpa [Apart] using h

namespace Apart

variable {rest : List Char} (h : Apart rest)

include h

theorem any_isBare_head? : rest.head?.any isBare = false := by
  cases rest with
  | nil => rfl
  | cons c cs => exact isBare_of_isBreak (h c rfl)

theorem head?_ne_opening (d : Dialect) : rest.head? ≠ some d.opening := by
  intro hhead
  exact ne_opening_of_isBreak (h d.opening hhead) d rfl

theorem head?_ne_closing (d : Dialect) : rest.head? ≠ some d.closing := by
  intro hhead
  exact ne_closing_of_isBreak (h d.closing hhead) d rfl

end Apart

/-! ## Names -/

/-- What is read up to the closing delimiter is what stands in front of it. -/
theorem eq_of_undouble {mark : Char} {text s rest : List Char}
    (h : undouble mark text = some (s, rest)) : text = double mark s ++ mark :: rest := by
  fun_induction undouble mark text generalizing s with
  | case1 => cases h
  | case2 =>
      obtain ⟨rfl, rfl⟩ := Prod.mk.inj (Option.some.inj h)
      rfl
  | case3 => cases h
  | case4 c d cs hc ih =>
      obtain ⟨r, hr, heq⟩ := Option.map_eq_some_iff.mp h
      obtain ⟨rfl, rfl⟩ := Prod.mk.inj heq
      rw [ih hr, double_cons, if_neg hc, List.append_assoc, List.singleton_append]
  | case5 c cs hc ih =>
      obtain ⟨r, hr, heq⟩ := Option.map_eq_some_iff.mp h
      obtain ⟨rfl, rfl⟩ := Prod.mk.inj heq
      rw [ih hr, double_cons, if_pos rfl, Decidable.of_not_not hc]
      rfl
  | case6 c d cs hc hd =>
      obtain ⟨rfl, rfl⟩ := Prod.mk.inj (Option.some.inj h)
      rw [Decidable.of_not_not hc]
      rfl

/-- No delimiter opens the text of a bare name. -/
theorem head?_append_ne_opening (d : Dialect) {word rest : List Char}
    (hword : word.all isBare = true) (hrest : Apart rest) :
    (word ++ rest).head? ≠ some d.opening := by
  cases word with
  | nil =>
      -- nothing is written for the empty name, so what stands behind it is met first
      exact hrest.head?_ne_opening d
  | cons c cs =>
      intro hhead
      rw [List.all_cons, Bool.and_eq_true, Option.some.inj hhead, isBare_opening] at hword
      cases hword.1

/-- A name is decoded from its text. -/
theorem decodeIdentifier_append (d : Dialect) (name : String) {rest : List Char}
    (hrest : Apart rest) :
    decodeIdentifier d ((d.quoteIdentifier name).toList ++ rest) = some (name, rest) := by
  unfold Dialect.quoteIdentifier
  cases hquote : needsQuoting name with
  | true =>
      have hread := undouble_double d.closing name.toList rest (hrest.head?_ne_closing d)
      rw [if_pos rfl, toList_escapeIdentifier_append, decodeIdentifier, List.head?_cons,
        if_pos rfl, List.tail_cons, hread, Option.bind_some]
      simp only [String.ofList_toList, hquote, if_true]
  | false =>
      have hbare := all_isBare_of_needsQuoting hquote
      obtain ⟨htake, hdrop⟩ := span_isBare_append hbare hrest.any_isBare_head?
      rw [if_neg Bool.false_ne_true, decodeIdentifier,
        if_neg (head?_append_ne_opening d hbare hrest)]
      simp only [htake, hdrop, String.ofList_toList, hquote, Bool.false_eq_true, if_false]

/-- What a name is decoded from is its text. -/
theorem eq_of_decodeIdentifier {d : Dialect} {text rest : List Char} {name : String}
    (h : decodeIdentifier d text = some (name, rest)) :
    text = (d.quoteIdentifier name).toList ++ rest := by
  unfold decodeIdentifier at h
  split at h
  · next hhead =>
      obtain ⟨⟨s, more⟩, hread, hname⟩ := Option.bind_eq_some_iff.mp h
      obtain ⟨hquote, heq⟩ := Option.ite_none_right_eq_some.mp hname
      obtain ⟨rfl, rfl⟩ := Prod.mk.inj (Option.some.inj heq)
      obtain ⟨cs, rfl⟩ := List.head?_eq_some_iff.mp hhead
      rw [Dialect.quoteIdentifier, if_pos hquote, toList_escapeIdentifier_append,
        String.toList_ofList, ← eq_of_undouble hread, List.tail_cons]
  · next hhead =>
      obtain ⟨hquote, heq⟩ := Option.ite_none_left_eq_some.mp h
      obtain ⟨rfl, rfl⟩ := Prod.mk.inj (Option.some.inj heq)
      rw [Dialect.quoteIdentifier, if_neg hquote, String.toList_ofList,
        List.takeWhile_append_dropWhile]

theorem quoteIdentifier_injective (d : Dialect) : Function.Injective d.quoteIdentifier := by
  intro a b h
  have hdecode := decodeIdentifier_append d a apart_nil
  rw [h, decodeIdentifier_append d b apart_nil] at hdecode
  exact (Prod.mk.inj (Option.some.inj hdecode)).1.symm

theorem escapeIdentifier_injective (d : Dialect) : Function.Injective d.escapeIdentifier := by
  intro a b h
  rw [Dialect.escapeIdentifier, Dialect.escapeIdentifier, String.ofList_inj] at h
  have hdouble := List.append_cancel_right (List.cons.inj h).2
  exact String.toList_inj.mp (double_injective hdouble)

/-! ## Columns -/

theorem decodeColumn_eq_some_iff_exists {d : Dialect} {text rest : List Char}
    {qualifier name : String} :
    decodeColumn d text = some (qualifier, name, rest) ↔
      ∃ more, decodeIdentifier d text = some (qualifier, '.' :: more) ∧
        decodeIdentifier d more = some (name, rest) := by
  simp only [decodeColumn, Option.bind_eq_bind, Option.bind_eq_some_iff, Prod.exists]
  constructor
  · rintro ⟨first, behind, hfirst, h⟩
    split at h
    · next more =>
        obtain ⟨second, hsecond, heq⟩ := Option.bind_eq_some_iff.mp h
        obtain ⟨rfl, hsecond'⟩ := Prod.mk.inj (Option.some.inj heq)
        exact ⟨more, hfirst, hsecond.trans (congrArg some hsecond')⟩
    · cases h
  · rintro ⟨more, hfirst, hsecond⟩
    refine ⟨qualifier, '.' :: more, hfirst, ?_⟩
    simp only [hsecond, Option.bind_some, Option.pure_def]

/-- A column is decoded from its text, and from no other. -/
theorem decodeColumn_eq_some_iff {d : Dialect} {text rest : List Char} {qualifier name : String}
    (hrest : Apart rest) :
    decodeColumn d text = some (qualifier, name, rest) ↔
      text = (d.quoteIdentifier qualifier ++ "." ++ d.quoteIdentifier name).toList ++ rest := by
  have htext : (d.quoteIdentifier qualifier ++ "." ++ d.quoteIdentifier name).toList ++ rest =
      (d.quoteIdentifier qualifier).toList ++ '.' :: ((d.quoteIdentifier name).toList ++ rest) := by
    simp
  rw [htext, decodeColumn_eq_some_iff_exists]
  constructor
  · rintro ⟨more, hqualifier, hname⟩
    rw [eq_of_decodeIdentifier hqualifier, eq_of_decodeIdentifier hname]
  · rintro rfl
    exact ⟨_, decodeIdentifier_append d qualifier (apart_cons rfl _),
      decodeIdentifier_append d name hrest⟩

example : decodeColumn .mssql "[a]]].[b.]]c] IS NULL".toList =
    some ("a]", "b.]c", " IS NULL".toList) := rfl

/-- A column can be told from its text, even the empty one, and so can what stands behind it. -/
theorem column_append_inj {d : Dialect} {qualifier name qualifier' name' : String}
    {rest rest' : List Char} (hrest : Apart rest) (hrest' : Apart rest')
    (h : (d.quoteIdentifier qualifier ++ "." ++ d.quoteIdentifier name).toList ++ rest =
      (d.quoteIdentifier qualifier' ++ "." ++ d.quoteIdentifier name').toList ++ rest') :
    qualifier = qualifier' ∧ name = name' ∧ rest = rest' := by
  have hdecode := (decodeColumn_eq_some_iff hrest).mpr h.symm
  rw [(decodeColumn_eq_some_iff hrest').mpr rfl] at hdecode
  obtain ⟨hqualifier, heq⟩ := Prod.mk.inj (Option.some.inj hdecode)
  obtain ⟨hname, hrests⟩ := Prod.mk.inj heq
  exact ⟨hqualifier.symm, hname.symm, hrests.symm⟩

/-- What is so of the columns that are written in a dialect. -/
structure Decodable (d : Dialect) : Prop where
  /-- A column is decoded from what is written for it, and from nothing else, whatever stands
  behind it. -/
  column : ∀ f : Fragment, f.dialect = d → ∀ qualifier name : String, ∃ text : String,
    (f.pushColumn qualifier name).text = f.text ++ text ∧
      ∀ source rest : List Char, Apart rest →
        (decodeColumn d source = some (qualifier, name, rest) ↔ source = text.toList ++ rest)
  /-- Two columns are told apart, and so is what stands behind them. -/
  distinct : ∀ f : Fragment, f.dialect = d →
    ∀ qualifier name qualifier' name' rest rest' : String,
      Apart rest.toList → Apart rest'.toList →
      (f.pushColumn qualifier name).text ++ rest = (f.pushColumn qualifier' name').text ++ rest' →
        qualifier = qualifier' ∧ name = name' ∧ rest = rest'
  quoted : Function.Injective d.quoteIdentifier
  delimited : Function.Injective d.escapeIdentifier

/-- Whatever columns are called, what is written for them says which they are. -/
theorem decodable (d : Dialect) : Decodable d where
  column := by
    rintro f rfl qualifier name
    refine ⟨_, f.text_pushColumn qualifier name, fun source rest hrest => ?_⟩
    exact decodeColumn_eq_some_iff hrest
  distinct := by
    rintro f rfl qualifier name qualifier' name' rest rest' hrest hrest' h
    rw [f.text_pushColumn, f.text_pushColumn] at h
    have hbehind := (String.append_right_inj f.text).mp
      (String.append_assoc.symm.trans (h.trans String.append_assoc))
    obtain ⟨hqualifier, hname, hrests⟩ := column_append_inj hrest hrest'
      (by rw [← String.toList_append, hbehind, String.toList_append])
    exact ⟨hqualifier, hname, String.toList_inj.mp hrests⟩
  quoted := quoteIdentifier_injective d
  delimited := escapeIdentifier_injective d

end Sql

end Sift
