import Sift.Filter
import Sift.Proofs.Keyed

/-!
# Sift.Proofs.Filter.Distinct

Filters whose groups have no key twice, as every group has that is put together entry by
entry or read from a document.

Main statements:

* `distinct_ofPairs` — the group of given pairs has distinct keys;
* `distinct_ofJson` — so has the filter of a document whose objects have distinct keys.
-/

namespace Sift

namespace Filter

mutual

/-- No group of a filter has a key twice. -/
def Distinct : Filter → Prop
  | .group entries => (Keyed.keys entries).Nodup ∧ DistinctEach entries
  | .leaf _ => True

/-- No group of the filters of some entries has a key twice. -/
def DistinctEach : List (String × Filter) → Prop
  | [] => True
  | (_, f) :: es => f.Distinct ∧ DistinctEach es

end

/-- Filters have distinct keys one by one. -/
theorem distinctEach_iff {entries : List (String × Filter)} :
    DistinctEach entries ↔ ∀ e ∈ entries, e.2.Distinct := by
  induction entries with
  | nil => simp [DistinctEach]
  | cons e es ih => simp [DistinctEach, ih]

end Filter

/-! ## Groups put together entry by entry -/

/-- The group of given pairs has distinct keys, whatever keys the pairs have. -/
theorem Filter.distinct_ofPairs {pairs : List (String × Filter)}
    (h : ∀ e ∈ pairs, e.2.Distinct) : (Filter.ofPairs pairs).Distinct := by
  rw [ofPairs, Distinct, distinctEach_iff]
  exact ⟨Keyed.nodup_keys_ofList pairs, Keyed.forall_mem_ofList h⟩

/-! ## Filters of documents -/

namespace Json

mutual

/-- No object of a document has a key twice. -/
def Distinct : Json → Prop
  | .object members => (Keyed.keys members).Nodup ∧ DistinctMembers members
  | .array items => DistinctItems items
  | _ => True

/-- No object among the items of an array has a key twice. -/
def DistinctItems : List Json → Prop
  | [] => True
  | j :: js => j.Distinct ∧ DistinctItems js

/-- No object among the members of an object has a key twice. -/
def DistinctMembers : List (String × Json) → Prop
  | [] => True
  | (_, j) :: ms => j.Distinct ∧ DistinctMembers ms

end

end Json

namespace Filter

/-- The keys of a document are the keys of its filter, in their order. -/
theorem keys_ofMembers (members : List (String × Json)) :
    Keyed.keys (ofMembers members) = Keyed.keys members := by
  induction members with
  | nil => rfl
  | cons m ms ih => simp [ofMembers, ih]

mutual

/-- The filter of a document has distinct keys where the document has. -/
theorem distinct_ofJson : {j : Json} → j.Distinct → (ofJson j).Distinct
  | .object members, h => by
      rw [Json.Distinct] at h
      rw [ofJson, Distinct, keys_ofMembers]
      exact ⟨h.1, distinctEach_ofMembers h.2⟩
  | .null, _ | .bool _, _ | .number _, _ | .text _, _ | .array _, _ => by simp [ofJson, Distinct]

/-- The filters of members have distinct keys if the members have. -/
theorem distinctEach_ofMembers : {members : List (String × Json)} →
    Json.DistinctMembers members → DistinctEach (ofMembers members)
  | [], _ => by simp [ofMembers, DistinctEach]
  | (_, j) :: ms, h => by
      rw [Json.DistinctMembers] at h
      rw [ofMembers, DistinctEach]
      exact ⟨distinct_ofJson h.1, distinctEach_ofMembers h.2⟩

end

end Filter

end Sift
