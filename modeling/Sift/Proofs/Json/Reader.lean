import Sift.Json.Reader
import Sift.Proofs.Filter.Distinct

/-!
# Sift.Proofs.Json.Reader

What is known of every document that a reader can read, whatever the text.

Main statement: `distinct_of_read` — no object of a document that has been read has a key
twice.
-/

namespace Sift

/-! ## Whatever is read -/

namespace Text.Parser

variable {α β : Type}

/-- All values that a parser reads have a property. -/
def Yields (p : Parser α) (P : α → Prop) : Prop := ∀ s a rest, p s = some (a, rest) → P a

theorem yields_true (p : Parser α) : p.Yields fun _ => True := fun _ _ _ _ => trivial

theorem yields_pure {P : α → Prop} {a : α} (h : P a) : (pure a : Parser α).Yields P := by
  intro s b rest hb
  cases hb
  exact h

/-- What is read in two steps has the property if the second step yields it. -/
theorem yields_bind {p : Parser α} {next : α → Parser β} {Q : α → Prop} {P : β → Prop}
    (hp : p.Yields Q) (hnext : ∀ a, Q a → (next a).Yields P) : (p >>= next).Yields P := by
  intro s b rest hb
  obtain ⟨⟨a, left⟩, ha, hb⟩ := Option.bind_eq_some_iff.mp hb
  exact hnext a (hp s a left ha) left b rest hb

/-- The last part of a parser decides what it reads. -/
theorem yields_then {p : Parser α} {next : α → Parser β} {P : β → Prop}
    (hnext : ∀ a, (next a).Yields P) : (p >>= next).Yields P :=
  yields_bind (yields_true p) fun a _ => hnext a

/-- What is read in one of two ways has the property if both ways yield it. -/
theorem yields_orElse {p q : Parser α} {P : α → Prop} (hp : p.Yields P) (hq : q.Yields P) :
    (p <|> q).Yields P := by
  intro s a rest ha
  cases hs : p s with
  | some x =>
      have hx : (p <|> q) s = some x := by
        show (p s <|> q s) = some x
        rw [hs]
        rfl
      exact hp s a rest (hs.trans (hx.symm.trans ha))
  | none =>
      have hx : (p <|> q) s = q s := by
        show (p s <|> q s) = q s
        rw [hs]
        rfl
      exact hq s a rest (hx.symm.trans ha)

/-- What is read again and again has the property one by one. -/
theorem forall_mem_manyFrom {p : Parser α} {P : α → Prop} (hp : p.Yields P) (s : List Char) :
    ∀ a ∈ (manyFrom p s).1, P a := by
  fun_induction manyFrom p s with
  | case1 s hs => simp
  | case2 s a rest hs hlt as left hrest ih =>
      rw [hrest] at ih
      intro b hb
      rcases List.mem_cons.mp hb with rfl | hb
      · exact hp s _ rest hs
      · exact ih b hb
  | case3 s a rest hs hlt => simp

theorem yields_many {p : Parser α} {P : α → Prop} (hp : p.Yields P) :
    (many p).Yields fun as => ∀ a ∈ as, P a := by
  intro s as rest h
  obtain rfl : (manyFrom p s).1 = as := congrArg Prod.fst (Option.some.inj h)
  exact forall_mem_manyFrom hp s

theorem yields_sepBy1 {p : Parser α} {sep : Parser Unit} {P : α → Prop} (hp : p.Yields P) :
    (sepBy1 p sep).Yields fun as => ∀ a ∈ as, P a := by
  refine yields_bind hp fun a ha => ?_
  refine yields_bind (yields_many (yields_then fun _ => hp)) fun as has => yields_pure ?_
  exact List.forall_mem_cons.mpr ⟨ha, has⟩

/-- What a text is read as has the property that its reader yields. -/
theorem of_readAll {p : Parser α} {P : α → Prop} (hp : p.Yields P) {s : List Char} {a : α}
    (h : readAll p s = some a) : P a := by
  rw [readAll] at h
  split at h
  · next b hb =>
      cases h
      exact hp s a [] hb
  · contradiction

end Text.Parser

/-! ## Documents -/

namespace Json

open Text.Parser

theorem distinctItems_iff {items : List Json} :
    DistinctItems items ↔ ∀ j ∈ items, j.Distinct := by
  induction items with
  | nil => simp [DistinctItems]
  | cons j js ih => simp [DistinctItems, ih]

theorem distinctMembers_iff {members : List (String × Json)} :
    DistinctMembers members ↔ ∀ m ∈ members, m.2.Distinct := by
  induction members with
  | nil => simp [DistinctMembers]
  | cons m ms ih => simp [DistinctMembers, ih]

/-- Items between brackets have the property one by one. -/
theorem yields_enclosed {α : Type} {opening closing : Char} {item : Text.Parser α}
    {P : α → Prop} (h : item.Yields P) :
    (enclosed opening closing item).Yields fun items => ∀ a ∈ items, P a := by
  refine yields_then fun _ => yields_then fun c => ?_
  split
  · exact yields_then fun _ => yields_pure (by simp)
  · exact yields_bind (yields_sepBy1 h) fun items hitems => yields_then fun _ => yields_pure hitems

theorem yields_scalar : scalar.Yields Distinct := by
  refine yields_orElse (yields_then fun _ => yields_pure (by simp [Distinct])) ?_
  refine yields_orElse (yields_then fun _ => yields_pure (by simp [Distinct])) ?_
  refine yields_orElse (yields_then fun _ => yields_pure (by simp [Distinct])) ?_
  refine yields_orElse (yields_then fun _ => yields_pure (by simp [Distinct])) ?_
  exact yields_then fun _ => yields_pure (by simp [Distinct])

/-- No object that is read has a key twice, at any depth. -/
theorem yields_value (depth : Nat) : (value depth).Yields Distinct := by
  induction depth with
  | zero => exact yields_scalar
  | succ depth ih =>
      have hinner : Text.Parser.Yields (do let j ← value depth; blanks; return j) Distinct :=
        yields_bind ih fun j hj => yields_then fun _ => yields_pure hj
      refine yields_then fun c => ?_
      split
      · refine yields_bind (yields_enclosed hinner) fun items hitems => yields_pure ?_
        rw [Distinct, distinctItems_iff]
        exact hitems
      · refine yields_bind (yields_enclosed (P := fun m : String × Json => m.2.Distinct) ?_)
          fun members hmembers => yields_pure ?_
        · exact yields_then fun key => yields_then fun _ => yields_then fun _ =>
            yields_bind hinner fun j hj => yields_pure hj
        · rw [Distinct, distinctMembers_iff]
          exact ⟨Keyed.nodup_keys_ofList members, Keyed.forall_mem_ofList hmembers⟩
      · exact yields_scalar

/-- No object of a document that has been read has a key twice. -/
theorem distinct_of_read {s : String} {j : Json} (h : read s = some j) : j.Distinct :=
  of_readAll (yields_then fun _ => yields_bind (yields_value deepest) fun _ hj =>
    yields_then fun _ => yields_pure hj) h

end Json

/-- The filter of a document that has been read has distinct keys. -/
theorem Filter.distinct_ofJson_of_read {s : String} {j : Json} (h : Json.read s = some j) :
    (ofJson j).Distinct :=
  distinct_ofJson (Json.distinct_of_read h)

end Sift
