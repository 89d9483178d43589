import Sift.Proofs.Filter.Decoding

/-!
# Sift.Proofs.Filter.RoundTrip

Documents that are read as filters or as values and written back.  A group and an object that is
kept in a list are written alike, and what stands in a list is read in another way than what
stands under a key; still the written document is read as what it was written for.

Numbers have to be integers of 64 bits with a sign, as any other would come back as a
floating-point number.  Those in an object that is kept as it is may be any.

Main statement: `roundTrips` — documents of such numbers are the same after reading and writing,
so no two of them are read alike.
-/

namespace Sift

/-! ## Documents of integers -/

namespace Json

mutual

/-- Every number in a document but for those in objects is an integer that fits. -/
def FitsValue : Json → Prop
  | .number (.int n) => Value.fits n = true
  | .number (.float _) => False
  | .array items => FitsItems items
  | .null | .bool _ | .text _ | .object _ => True

/-- So is every number in some items. -/
def FitsItems : List Json → Prop
  | [] => True
  | j :: js => j.FitsValue ∧ FitsItems js

end

mutual

/-- Every number in a document but for those in objects in arrays is an integer that fits. -/
def FitsFilter : Json → Prop
  | .object members => FitsMembers members
  | j => j.FitsValue

/-- So is every number in some members. -/
def FitsMembers : List (String × Json) → Prop
  | [] => True
  | (_, j) :: ms => j.FitsFilter ∧ FitsMembers ms

end

end Json

/-! ## Reading and writing -/

/-- Documents with a property are the same after reading and writing. -/
structure RoundTrips {α : Type} (read : Json → α) (shape? : Json → Option α) (write : α → Json)
    (P : Json → Prop) : Prop where
  /-- What is written is the document that was read, with its keys in their order. -/
  written : ∀ j, P j → write (read j) = j
  /-- It is read as what it was written for, by cases and by shape. -/
  again : ∀ j, P j → read (write (read j)) = read j
  shaped : ∀ j, P j → shape? (write (read j)) = some (read j)
  /-- No two documents are read alike. -/
  injective : ∀ j j', P j → P j' → read j = read j' → j = j'

/-- It is enough that what is written is the document that was read. -/
theorem RoundTrips.of_written {α : Type} {read : Json → α} {shape? : Json → Option α}
    {write : α → Json} {P : Json → Prop} (hshape : ∀ j, shape? j = some (read j))
    (h : ∀ j, P j → write (read j) = j) : RoundTrips read shape? write P where
  written := h
  again j hj := congrArg read (h j hj)
  shaped j hj := by rw [h j hj, hshape]
  injective j j' hj hj' heq := by rw [← h j hj, heq, h j' hj']

mutual

/-- The value of a document of integers is written as the document. -/
theorem Value.toJson_ofJson : {j : Json} → j.FitsValue → (Value.ofJson j).toJson = j
  | .null, _ | .bool _, _ | .text _, _ | .object _, _ => rfl
  | .number (.int n), h => by
      rw [Json.FitsValue] at h
      rw [ofJson, ofNumber, if_pos h, toJson, toInt_ofInt_of_fits h, Json.int]
  | .number (.float _), h => by
      rw [Json.FitsValue] at h
      exact h.elim
  | .array items, h => by
      rw [Json.FitsValue] at h
      rw [ofJson, toJson, toItems_ofItems h]

theorem Value.toItems_ofItems : {items : List Json} → Json.FitsItems items →
    Value.toItems (Value.ofItems items) = items
  | [], _ => rfl
  | _ :: _, h => by
      rw [Json.FitsItems] at h
      rw [ofItems, toItems, toJson_ofJson h.1, toItems_ofItems h.2]

end

mutual

/-- So is the filter of a document. -/
theorem Filter.toJson_ofJson : {j : Json} → j.FitsFilter → (Filter.ofJson j).toJson = j
  | .object members, h => by
      rw [Json.FitsFilter] at h
      rw [ofJson, toJson, toMembers_ofMembers h]
  | .null, h | .bool _, h | .number _, h | .text _, h | .array _, h => Value.toJson_ofJson h

theorem Filter.toMembers_ofMembers : {members : List (String × Json)} → Json.FitsMembers members →
    Filter.toMembers (Filter.ofMembers members) = members
  | [], _ => rfl
  | (_, _) :: _, h => by
      rw [Json.FitsMembers] at h
      rw [ofMembers, toMembers, toJson_ofJson h.1, toMembers_ofMembers h.2]

end

/-- Documents of integers are the same after reading and writing, as filters and as values. -/
theorem roundTrips :
    RoundTrips Filter.ofJson Filter.byShape? Filter.toJson Json.FitsFilter ∧
      RoundTrips Value.ofJson Value.byShape? Value.toJson Json.FitsValue :=
  ⟨.of_written Filter.byShape?_eq fun _ => Filter.toJson_ofJson,
    .of_written Value.byShape?_eq fun _ => Value.toJson_ofJson⟩

/-- A group without entries, a list without items and an object in a list are told apart, and
a number in the object may be larger than one outside. -/
theorem roundTrips_nested :
    let j := Json.object [("a", .object []), ("b", .array [.int (-7)]),
      ("c", .array [.object [("n", .int (UInt64.size - 1))]])]
    j.FitsFilter ∧ (Filter.ofJson j).toJson = j ∧
      Filter.byShape? (Filter.ofJson j).toJson = some (Filter.ofJson j) := by
  intro j
  have hfits : j.FitsFilter := by
    simp [j, Json.int, Json.FitsFilter, Json.FitsMembers, Json.FitsValue, Json.FitsItems, Value.fits]
    decide
  exact ⟨hfits, roundTrips.1.written j hfits, roundTrips.1.shaped j hfits⟩

end Sift
