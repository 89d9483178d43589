import Sift.Operator.Arguments
import Sift.Proofs.Reported

/-!
# Sift.Proofs.Operator.Arguments

Which arguments pass the checks of the operators, said by the kinds of the values.

Main statements: one lemma for each check, such as `single_eq_ok_iff` and `exists_text_iff`.
-/

namespace Sift

/-! ## Kinds of values -/

namespace Value

/-- A value that is neither a list nor an object. -/
def Scalar (v : Value) : Prop := v.kind ≠ .list ∧ v.kind ≠ .document

/-- Nor null. -/
def Present (v : Value) : Prop := v.Scalar ∧ v.kind ≠ .null

/-- A value that says yes or no. -/
def SpellsFlag : Value → Prop
  | .null | .bool _ => True
  | .int n => n = 0 ∨ n = 1
  | .text s => Text.lowercase s ∈ ["true", "1", "yes", "false", "0", "no"]
  | _ => False

/-- A value that can be part of a pattern. -/
def SpellsText (v : Value) : Prop := v.kind = .text ∨ v.kind = .int ∨ v.kind = .float

/-- The check for a scalar finds the scalar values. -/
theorem isScalar_iff {v : Value} : v.isScalar = true ↔ v.Scalar := by
  cases v <;> simp [isScalar, Scalar, kind]

theorem isNull_iff {v : Value} : v.isNull = true ↔ v.kind = .null := by
  cases v <;> simp [isNull, kind]

/-- The check for a present value finds the scalar values other than null. -/
theorem isPresent_iff {v : Value} : v.isPresent = true ↔ v.Present := by
  rw [isPresent, Bool.and_eq_true, Bool.not_eq_true', ← Bool.not_eq_true, isScalar_iff, isNull_iff,
    Present]

theorem isNull_of_present {v : Value} (h : v.Present) : v.isNull = false :=
  Bool.eq_false_iff.mpr fun hnull => h.2 (isNull_iff.mp hnull)

theorem present_text (s : String) : (text s).Present := by
  simp [Present, Scalar, kind]

end Value

/-! ## Checks -/

namespace Arguments

variable {vs ws : List Value} {v low high : Value}

/-- One scalar is taken where it is the only argument. -/
theorem single_eq_ok_iff : single vs = .ok v ↔ vs = [v] ∧ v.Scalar := by
  match vs with
  | [] => simp [single]
  | [w] =>
      rw [single, List.cons.injEq]
      split
      · next hw =>
          constructor
          · rintro ⟨⟩
            exact ⟨⟨rfl, rfl⟩, Value.isScalar_iff.mp hw⟩
          · rintro ⟨⟨rfl, -⟩, -⟩
            rfl
      · next hw =>
          refine iff_of_false nofun ?_
          rintro ⟨⟨rfl, -⟩, hv⟩
          exact hw (Value.isScalar_iff.mpr hv)
  | w :: x :: rest => simp [single]

/-- A value to compare with is the only argument and is not null. -/
theorem ordered_eq_ok_iff : ordered vs = .ok v ↔ vs = [v] ∧ v.Present := by
  rw [ordered, except_bind_eq_ok_iff]
  simp only [single_eq_ok_iff]
  constructor
  · rintro ⟨w, ⟨rfl, hw⟩, h⟩
    split at h
    · cases h
    · next hnull =>
        cases h
        exact ⟨rfl, hw, fun hkind => hnull (Value.isNull_iff.mpr hkind)⟩
  · rintro ⟨rfl, hv, hkind⟩
    exact ⟨v, ⟨rfl, hv⟩, if_neg fun hnull => hkind (Value.isNull_iff.mp hnull)⟩

/-- A choice is of one present value at least, and of present values only. -/
theorem choice_eq_ok_iff :
    choice vs = .ok ws ↔ ws = vs ∧ vs ≠ [] ∧ ∀ v ∈ vs, v.Present := by
  cases vs with
  | nil => simp [choice]
  | cons v rest =>
      rw [choice, if_neg (by simp)]
      split
      · next w hfind =>
          refine iff_of_false nofun fun ⟨_, _, hall⟩ => ?_
          have hw := hall w (List.mem_of_find?_eq_some hfind)
          simpa [Value.isPresent_iff.mpr hw] using List.find?_some hfind
      · next hfind =>
          have hall : ∀ w ∈ v :: rest, w.Present := fun w hw =>
            Value.isPresent_iff.mp (by simpa using List.find?_eq_none.mp hfind w hw)
          rw [Except.ok.injEq]
          exact ⟨fun h => ⟨h.symm, List.cons_ne_nil v rest, hall⟩, fun h => h.1.symm⟩

/-- Bounds are two present values. -/
theorem pair_eq_ok_iff :
    pair vs = .ok (low, high) ↔ vs = [low, high] ∧ low.Present ∧ high.Present := by
  match vs with
  | [] | [a] | a :: b :: c :: rest => simp [pair]
  | [a, b] =>
      have hboth : (a.isPresent && b.isPresent) = true ↔ a.Present ∧ b.Present := by
        rw [Bool.and_eq_true, Value.isPresent_iff, Value.isPresent_iff]
      rw [pair]
      split
      · next h =>
          constructor
          · rintro ⟨⟩
            exact ⟨rfl, hboth.mp h⟩
          · rintro ⟨⟨⟩, -⟩
            rfl
      · next h =>
          refine iff_of_false nofun ?_
          rintro ⟨⟨⟩, h'⟩
          exact h (hboth.mpr h')

/-- A text spells a flag by one of six words, in letters of any case. -/
theorem exists_flagOfText?_iff {s : String} : (∃ b, flagOfText? s = some b) ↔
    Text.lowercase s ∈ ["true", "1", "yes", "false", "0", "no"] := by
  have hmem : Text.lowercase s ∈ ["true", "1", "yes", "false", "0", "no"] ↔
      Text.lowercase s ∈ ["true", "1", "yes"] ∨ Text.lowercase s ∈ ["false", "0", "no"] := by
    rw [← List.mem_append]
    rfl
  rw [hmem, flagOfText?]
  simp only [List.contains_iff_mem]
  split
  · next h => exact iff_of_true ⟨true, rfl⟩ (.inl h)
  · next h =>
      split
      · next h' => exact iff_of_true ⟨false, rfl⟩ (.inr h')
      · next h' => exact iff_of_false nofun (not_or.mpr ⟨h, h'⟩)

/-- A value is taken for a flag exactly if it spells one. -/
theorem exists_flagOf_iff : (∃ b, flagOf v = .ok b) ↔ v.SpellsFlag := by
  cases v with
  | null => exact iff_of_true ⟨true, rfl⟩ trivial
  | bool b => exact iff_of_true ⟨b, rfl⟩ trivial
  | float | list | document => exact iff_of_false nofun id
  | text s =>
      rw [Value.SpellsFlag, ← exists_flagOfText?_iff, flagOf]
      cases flagOfText? s <;> simp
  | int n =>
      rw [Value.SpellsFlag, flagOf]
      split
      · next h => exact iff_of_true ⟨true, rfl⟩ (.inr h)
      · next h =>
          split
          · next h' => exact iff_of_true ⟨false, rfl⟩ (.inl h')
          · next h' => exact iff_of_false nofun (not_or.mpr ⟨h', h⟩)

/-- A flag may be left out. -/
theorem exists_flag_iff :
    (∃ b, flag vs = .ok b) ↔ vs = [] ∨ ∃ v, vs = [v] ∧ v.SpellsFlag := by
  match vs with
  | [] => exact iff_of_true ⟨true, rfl⟩ (.inl rfl)
  | [w] =>
      rw [flag, exists_flagOf_iff]
      simp
  | w :: x :: rest => simp [flag]

/-- A pattern is one argument that spells a text. -/
theorem exists_text_iff : (∃ t, text vs = .ok t) ↔ ∃ v, vs = [v] ∧ v.SpellsText := by
  simp only [text, except_bind_eq_ok_iff, ordered_eq_ok_iff]
  constructor
  · rintro ⟨t, v, ⟨rfl, -⟩, h⟩
    refine ⟨v, rfl, ?_⟩
    cases v with
    | text | int | float => simp [Value.SpellsText, Value.kind]
    | null | bool | list | document => cases h
  · rintro ⟨v, rfl, h⟩
    cases v with
    | text | int | float =>
        exact ⟨_, _, ⟨rfl, by simp [Value.Present, Value.Scalar, Value.kind]⟩, rfl⟩
    | null | bool | list | document => simp [Value.SpellsText, Value.kind] at h

end Arguments

end Sift
