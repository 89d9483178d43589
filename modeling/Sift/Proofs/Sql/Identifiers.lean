import Sift.Sql.Fragment

/-!
# Sift.Proofs.Sql.Identifiers

Names as an engine reads them.  An identifier is either a text between delimiters, or a word
that begins with a letter or an underscore and is not reserved.  A name that is written reads
back as itself, by itself and on either side of a dot, with one exception: a plain name that
begins with a digit is written bare, and no identifier begins with a digit.

Main statements:

* `needsQuoting_eq_false_iff` — which names are written bare;
* `readIdentifier_quoteIdentifier` — what is read of a name that is written;
* `readsBack_iff` — the same of names and of columns, as an equivalence.
-/

namespace Sift

namespace Sql

/-! ## Identifiers -/

/-- A character that a bare identifier may begin with: a letter of ASCII, or the underscore. -/
def isFirst (c : Char) : Bool := c.isAlpha || c = '_'

/-- Whether a word is an identifier as it stands. -/
def isRegular (word : List Char) : Bool :=
  word.head?.any isFirst && word.all isBare &&
    !reserved.contains (Text.asciiLowercase (String.ofList word))

/-- Read an identifier, as far as it goes: its name, and what follows it. -/
def readIdentifier (d : Dialect) : List Char → Option (String × List Char)
  | [] => none
  | c :: cs =>
    if c = d.opening then
      (undouble d.closing cs).map fun r => (String.ofList r.1, r.2)
    else
      let word := (c :: cs).takeWhile isBare
      if isRegular word then some (String.ofList word, (c :: cs).dropWhile isBare) else none

/-- Read an identifier, a dot and another identifier. -/
def readColumn (d : Dialect) (text : List Char) : Option (String × String × List Char) := do
  let (qualifier, rest) ← readIdentifier d text
  match rest with
  | '.' :: rest =>
    let (column, rest) ← readIdentifier d rest
    return (qualifier, column, rest)
  | _ => none

/-- A plain name that begins with a digit. -/
def leadsWithDigit (name : String) : Bool :=
  name.toList.head?.any Char.isDigit && name.toList.all isBare

/-! ## Characters of bare names -/

theorem isFirst_iff {c : Char} :
    isFirst c = true ↔
      (65 ≤ c.toNat ∧ c.toNat ≤ 90) ∨ (97 ≤ c.toNat ∧ c.toNat ≤ 122) ∨ c.toNat = 95 := by
  have hunderscore : c = '_' ↔ c.toNat = 95 := Char.toNat_inj.symm
  have hfirst : isFirst c = (decide ('A'.val ≤ c.val ∧ c.val ≤ 'Z'.val) ||
      ('a'.val ≤ c.val && c.val ≤ 'z'.val) || c = '_') := rfl
  simp only [hfirst, Bool.or_eq_true, Bool.and_eq_true, decide_eq_true_eq, hunderscore,
    UInt32.le_iff_toNat_le, or_assoc]
  rfl

theorem isBare_iff {c : Char} : isBare c = true ↔ isFirst c = true ∨ c.isDigit = true := by
  have hbare : isBare c = (c.isAlpha || c.isDigit || c = '_') := rfl
  simp only [hbare, isFirst, Bool.or_eq_true, or_right_comm]

theorem toNat_lt_of_isBare {c : Char} (h : isBare c = true) : c.toNat < 128 := by
  rw [isBare_iff, isFirst_iff, Char.isDigit_iff_toNat] at h
  have hnine : '9'.toNat = 57 := rfl
  omega

theorem isFirst_of_isDigit {c : Char} (h : c.isDigit = true) : isFirst c = false := by
  rw [Char.isDigit_iff_toNat] at h
  have hnine : '9'.toNat = 57 := rfl
  have hzero : '0'.toNat = 48 := rfl
  rw [← Bool.not_eq_true, isFirst_iff]
  omega

theorem toLower_of_isDigit {c : Char} (h : c.isDigit = true) : c.toLower = c := by
  rw [Char.isDigit_iff_toNat] at h
  have hnine : '9'.toNat = 57 := rfl
  have hupper : ¬ (c.val ≥ 'A'.val ∧ c.val ≤ 'Z'.val) := by
    intro h
    have hle : 65 ≤ c.toNat := UInt32.le_iff_toNat_le.mp h.1
    omega
  exact dif_neg hupper

/-- Plain letters have one lower case only. -/
theorem lowerFrom_of_isBare {cs : List Char} (h : cs.all isBare = true) (before : List Char) :
    Text.lowerFrom before cs = cs.map Char.toLower := by
  induction cs generalizing before with
  | nil => rfl
  | cons c cs ih =>
      rw [List.all_cons, Bool.and_eq_true] at h
      have hc := toNat_lt_of_isBare h.1
      have hsigma : c ≠ 'Σ' := by
        intro heq
        rw [heq] at hc
        exact absurd hc (by decide)
      rw [Text.lowerFrom, if_neg hsigma, Text.lowerChar, if_pos hc, ih h.2]
      rfl

theorem lowercase_of_isBare {name : String} (h : name.toList.all isBare = true) :
    Text.lowercase name = Text.asciiLowercase name := by
  rw [Text.lowercase, lowerFrom_of_isBare h, Text.asciiLowercase]

/-! ## Names that are written bare -/

/-- No reserved word begins with a digit. -/
theorem not_reserved_of_leadsWithDigit {name : String} (h : leadsWithDigit name = true) :
    reserved.contains (Text.asciiLowercase name) = false := by
  have hreserved : ∀ w ∈ reserved, w.toList.head?.any Char.isDigit = false := by decide
  rw [leadsWithDigit, Bool.and_eq_true, Option.any_eq_true] at h
  obtain ⟨⟨c, hhead, hdigit⟩, -⟩ := h
  have hlower : (Text.asciiLowercase name).toList.head? = some c := by
    rw [Text.asciiLowercase, String.toList_ofList, List.head?_map, hhead, Option.map_some,
      toLower_of_isDigit hdigit]
  rw [← Bool.not_eq_true, List.contains_iff_mem]
  intro hmem
  have hno := hreserved _ hmem
  rw [hlower, Option.any_some, hdigit] at hno
  cases hno

/-- A name that begins with a digit is no identifier as it stands. -/
theorem isRegular_of_leadsWithDigit {name : String} (h : leadsWithDigit name = true) :
    isRegular name.toList = false := by
  rw [leadsWithDigit, Bool.and_eq_true, Option.any_eq_true] at h
  obtain ⟨⟨c, hhead, hdigit⟩, -⟩ := h
  simp [isRegular, hhead, isFirst_of_isDigit hdigit]

/-- A name is written bare if it is an identifier as it stands, and if it is plain and begins
with a digit. -/
theorem needsQuoting_eq_false_iff {name : String} (hname : name ≠ "") :
    needsQuoting name = false ↔ isRegular name.toList = true ∨ leadsWithDigit name = true := by
  cases hbare : name.toList.all isBare with
  | false => simp [needsQuoting, isRegular, leadsWithDigit, hbare]
  | true =>
      have hlower := lowercase_of_isBare hbare
      have hquote : needsQuoting name = reserved.contains (Text.asciiLowercase name) := by
        simp [needsQuoting, hlower, hbare]
      have hregular : isRegular name.toList =
          (name.toList.head?.any isFirst && !reserved.contains (Text.asciiLowercase name)) := by
        simp [isRegular, hbare]
      rw [hquote, hregular, Bool.and_eq_true, Bool.not_eq_true']
      constructor
      · intro hfree
        obtain ⟨c, cs, hcs⟩ := List.exists_cons_of_ne_nil fun h =>
          hname (String.toList_eq_nil_iff.mp h)
        have hc : isBare c = true := List.all_eq_true.mp hbare c (hcs ▸ List.mem_cons_self)
        obtain hfirst | hdigit := isBare_iff.mp hc
        · exact .inl ⟨by rw [hcs, List.head?_cons, Option.any_some, hfirst], hfree⟩
        · right
          rw [leadsWithDigit, hbare, hcs, List.head?_cons, Option.any_some, hdigit, Bool.and_true]
      · intro h
        obtain ⟨-, hfree⟩ | hdigit := h
        · exact hfree
        · exact not_reserved_of_leadsWithDigit hdigit

theorem quoteIdentifier_eq (d : Dialect) {name : String} (hname : name ≠ "") :
    d.quoteIdentifier name =
      if isRegular name.toList || leadsWithDigit name then name else d.escapeIdentifier name := by
  have hbare := needsQuoting_eq_false_iff hname
  rw [← Bool.or_eq_true] at hbare
  rw [Dialect.quoteIdentifier]
  cases hwritten : isRegular name.toList || leadsWithDigit name with
  | true => rw [hbare.mpr hwritten, if_neg Bool.false_ne_true, if_pos rfl]
  | false =>
      have hquote : needsQuoting name = true := by
        rw [← Bool.not_eq_false, hbare, hwritten]
        exact Bool.false_ne_true
      rw [hquote, if_pos rfl, if_neg Bool.false_ne_true]

/-! ## Reading names -/

theorem isBare_opening (d : Dialect) : isBare d.opening = false := by
  cases d <;> rfl

theorem toList_escapeIdentifier_append (d : Dialect) (name : String) (rest : List Char) :
    (d.escapeIdentifier name).toList ++ rest =
      d.opening :: (double d.closing name.toList ++ d.closing :: rest) := by
  simp [Dialect.escapeIdentifier]

/-- A bare word ends where a character of another kind stands. -/
theorem span_isBare_append {word rest : List Char} (hword : word.all isBare = true)
    (hrest : rest.head?.any isBare = false) :
    (word ++ rest).takeWhile isBare = word ∧ (word ++ rest).dropWhile isBare = rest := by
  have hends : rest.takeWhile isBare = [] ∧ rest.dropWhile isBare = rest := by
    cases rest with
    | nil => exact ⟨rfl, rfl⟩
    | cons a rest =>
        rw [List.head?_cons, Option.any_some] at hrest
        simp [hrest]
  have hall : ∀ a ∈ word, isBare a = true := List.all_eq_true.mp hword
  constructor
  · rw [List.takeWhile_append_of_pos hall, hends.1, List.append_nil]
  · rw [List.dropWhile_append_of_pos hall, hends.2]

section Reading

variable (d : Dialect) {name : String} (rest : List Char)

/-- Between delimiters every name is read. -/
theorem readIdentifier_escapeIdentifier (name : String) (hrest : rest.head? ≠ some d.closing) :
    readIdentifier d ((d.escapeIdentifier name).toList ++ rest) = some (name, rest) := by
  rw [toList_escapeIdentifier_append, readIdentifier, if_pos rfl,
    undouble_double d.closing name.toList rest hrest, Option.map_some, String.ofList_toList]

/-- A bare word is read up to its end, if it is an identifier. -/
theorem readIdentifier_bare (hname : name ≠ "") (hbare : name.toList.all isBare = true)
    (hrest : rest.head?.any isBare = false) :
    readIdentifier d (name.toList ++ rest) =
      if isRegular name.toList then some (name, rest) else none := by
  obtain ⟨c, cs, hcs⟩ := List.exists_cons_of_ne_nil fun h =>
    hname (String.toList_eq_nil_iff.mp h)
  have hc : isBare c = true := List.all_eq_true.mp hbare c (hcs ▸ List.mem_cons_self)
  have hopening : c ≠ d.opening := by
    intro heq
    rw [heq, isBare_opening] at hc
    cases hc
  obtain ⟨htake, hdrop⟩ := span_isBare_append hbare hrest
  have htext : name.toList ++ rest = c :: (cs ++ rest) := by rw [hcs, List.cons_append]
  rw [htext] at htake hdrop ⊢
  rw [readIdentifier, if_neg hopening]
  simp only [htake, hdrop, String.ofList_toList]

/-- What is read of a name that is written, where what follows cannot belong to it. -/
theorem readIdentifier_quoteIdentifier (hname : name ≠ "")
    (hbare : rest.head?.any isBare = false) (hclosing : rest.head? ≠ some d.closing) :
    readIdentifier d ((d.quoteIdentifier name).toList ++ rest) =
      if leadsWithDigit name then none else some (name, rest) := by
  rw [quoteIdentifier_eq d hname]
  cases hdigit : leadsWithDigit name with
  | true =>
      have hall : name.toList.all isBare = true := by
        rw [leadsWithDigit, Bool.and_eq_true] at hdigit
        exact hdigit.2
      rw [Bool.or_true, if_pos rfl, readIdentifier_bare d rest hname hall hbare,
        isRegular_of_leadsWithDigit hdigit]
      rfl
  | false =>
      cases hregular : isRegular name.toList with
      | true =>
          have hall : name.toList.all isBare = true := by
            simp only [isRegular, Bool.and_eq_true] at hregular
            exact hregular.1.2
          rw [Bool.true_or, if_pos rfl, readIdentifier_bare d rest hname hall hbare, hregular]
          rfl
      | false =>
          rw [Bool.or_false, if_neg Bool.false_ne_true]
          exact readIdentifier_escapeIdentifier d rest name hclosing

end Reading

/-- What is read of a column that is written. -/
theorem readColumn_written (d : Dialect) {qualifier name : String} (hqualifier : qualifier ≠ "")
    (hname : name ≠ "") :
    readColumn d (d.quoteIdentifier qualifier ++ "." ++ d.quoteIdentifier name).toList =
      if leadsWithDigit qualifier || leadsWithDigit name then none
      else some (qualifier, name, []) := by
  have htext : (d.quoteIdentifier qualifier ++ "." ++ d.quoteIdentifier name).toList =
      (d.quoteIdentifier qualifier).toList ++ '.' :: (d.quoteIdentifier name).toList := by
    simp
  have hdot : ('.' :: (d.quoteIdentifier name).toList).head? ≠ some d.closing := by
    cases d <;> simp [Dialect.closing]
  have hfirst := readIdentifier_quoteIdentifier d ('.' :: _) hqualifier rfl hdot
  have hsecond := readIdentifier_quoteIdentifier d [] hname rfl nofun
  rw [List.append_nil] at hsecond
  rw [htext, readColumn, hfirst]
  cases leadsWithDigit qualifier with
  | true => rfl
  | false =>
      rw [if_neg Bool.false_ne_true, Bool.false_or]
      simp only [Option.bind_eq_bind, Option.bind_some, hsecond]
      cases leadsWithDigit name with
      | true => rfl
      | false => rfl

/-! ## Which names read back -/

/-- A text is a name as a dialect writes it: as it stands where it is an identifier, and
between delimiters otherwise, and it is read as the name and nothing else. -/
structure Names (d : Dialect) (name text : String) : Prop where
  written : text = if isRegular name.toList then name else d.escapeIdentifier name
  read : readIdentifier d text.toList = some (name, [])

/-- A name is written as it should be and reads back, and a column reads back as an identifier,
a dot and an identifier, exactly if no plain name among them begins with a digit. -/
theorem readsBack_iff (f : Fragment) {qualifier name : String} (hqualifier : qualifier ≠ "")
    (hname : name ≠ "") :
    (Names f.dialect name (f.dialect.quoteIdentifier name) ↔ leadsWithDigit name = false) ∧
      ∃ column, (f.pushColumn qualifier name).text = f.text ++ column ∧
        (readColumn f.dialect column.toList = some (qualifier, name, []) ↔
          leadsWithDigit qualifier = false ∧ leadsWithDigit name = false) := by
  have hread := readIdentifier_quoteIdentifier f.dialect [] hname rfl nofun
  have hcolumn := readColumn_written f.dialect hqualifier hname
  rw [List.append_nil] at hread
  constructor
  · constructor
    · intro h
      have hname' := h.read
      rw [hread] at hname'
      simpa using hname'
    · intro hdigit
      refine ⟨?_, by rw [hread, hdigit]; rfl⟩
      rw [quoteIdentifier_eq f.dialect hname, hdigit, Bool.or_false]
  · refine ⟨f.dialect.quoteIdentifier qualifier ++ "." ++ f.dialect.quoteIdentifier name, ?_, ?_⟩
    · simp [Fragment.pushColumn, Fragment.pushIdentifier, String.append_assoc]
    · rw [hcolumn]
      cases leadsWithDigit qualifier <;> cases leadsWithDigit name <;> simp

/-- A reserved word stands between delimiters, and its column reads back. -/
theorem readsBack_group :
    ("orders" ≠ "" ∧ "group" ≠ "") ∧ Names .postgres "group" "\"group\"" ∧
      ∃ column, ((Fragment.empty .postgres).pushColumn "orders" "group").text = column ∧
        readColumn .postgres column.toList = some ("orders", "group", []) := by
  have horders : "orders" ≠ "" := by decide
  have hgroup : "group" ≠ "" := by decide
  have hback := readsBack_iff (.empty .postgres) horders hgroup
  obtain ⟨column, htext, hcolumn⟩ := hback.2
  exact ⟨⟨horders, hgroup⟩, hback.1.mpr rfl, column, htext, hcolumn.mpr ⟨rfl, rfl⟩⟩

/-- The name of a switch for two factors is written bare, and neither it nor its column can be
read. -/
theorem not_names_twoFactor :
    "2fa_enabled" ≠ "" ∧ Dialect.postgres.quoteIdentifier "2fa_enabled" = "2fa_enabled" ∧
      ¬ Names .postgres "2fa_enabled" (Dialect.postgres.quoteIdentifier "2fa_enabled") ∧
      ((Fragment.empty .postgres).pushColumn "users" "2fa_enabled").text = "users.2fa_enabled" ∧
      readColumn .postgres "users.2fa_enabled".toList = none := by
  have hwritten : Dialect.postgres.quoteIdentifier "2fa_enabled" = "2fa_enabled" := rfl
  have hread : readIdentifier .postgres "2fa_enabled".toList = none := rfl
  refine ⟨by decide, hwritten, fun h => ?_, rfl, rfl⟩
  have hnone := h.read
  rw [hwritten, hread] at hnone
  cases hnone

end Sql

end Sift
