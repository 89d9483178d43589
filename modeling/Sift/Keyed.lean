/-!
# Sift.Keyed

Lists of keyed entries: one value per key, in the order in which the keys first
appeared.  Objects of a document, the groups of a filter and the tables of a
configuration are all read this way: a repeated key keeps its first position and
takes the last value.

Main statements:

* `get?_put_self`, `get?_put_of_ne` — what a look-up finds after a `put`;
* `keys_put_of_mem`, `keys_put_of_not_mem` — a `put` keeps the keys or appends one;
* `nodup_keys_put`, `nodup_keys_ofList` — keys stay distinct.
-/

namespace Sift

/-- Entries under string keys, the oldest key first. -/
abbrev Keyed (α : Type u) := List (String × α)

namespace Keyed

variable {α : Type u}

/-! ## Looking up -/

/-- The keys, oldest first. -/
def keys (entries : Keyed α) : List String :=
  entries.map Prod.fst

/-- The value under a key. -/
def get? : Keyed α → String → Option α
  | [], _ => none
  | (k, v) :: rest, key => if k = key then some v else get? rest key

@[simp] theorem keys_nil : keys ([] : Keyed α) = [] := rfl

@[simp] theorem keys_cons (e : String × α) (es : Keyed α) :
    keys (e :: es) = e.1 :: keys es := rfl

/-- A look-up answers exactly on the keys. -/
theorem get?_eq_none_iff {entries : Keyed α} {key : String} :
    get? entries key = none ↔ key ∉ keys entries := by
  induction entries with
  | nil => simp [get?]
  | cons e es ih =>
      by_cases h : e.1 = key
      · simp [get?, h]
      · simp [get?, h, ih, Ne.symm h]

/-- A look-up finds something exactly under the keys. -/
theorem isSome_get?_iff {entries : Keyed α} {key : String} :
    (get? entries key).isSome ↔ key ∈ keys entries := by
  rw [Option.isSome_iff_ne_none, ne_eq, get?_eq_none_iff, Decidable.not_not]

/-- What a look-up finds is an entry. -/
theorem mem_of_get? {entries : Keyed α} {key : String} {value : α}
    (h : get? entries key = some value) : (key, value) ∈ entries := by
  induction entries with
  | nil => simp [get?] at h
  | cons e es ih =>
      obtain ⟨k, v⟩ := e
      rw [get?] at h
      split at h
      · next heq =>
          cases h
          subst heq
          exact List.mem_cons_self
      · exact List.mem_cons_of_mem _ (ih h)

/-- Among distinct keys, a look-up finds each entry under its key. -/
theorem get?_of_mem {entries : Keyed α} {key : String} {value : α}
    (hdistinct : (keys entries).Nodup) (h : (key, value) ∈ entries) :
    get? entries key = some value := by
  induction entries with
  | nil => simp at h
  | cons e es ih =>
      rw [keys_cons, List.nodup_cons] at hdistinct
      rcases List.mem_cons.mp h with rfl | hmem
      · simp [get?]
      · have hne : e.1 ≠ key := fun heq =>
          hdistinct.1 (heq ▸ List.mem_map_of_mem (f := Prod.fst) hmem)
        rw [get?, if_neg hne, ih hdistinct.2 hmem]

/-! ## Entering -/

/-- Enter a value: in place of the key's old value, or as the last entry. -/
def put (entries : Keyed α) (key : String) (value : α) : Keyed α :=
  match entries with
  | [] => [(key, value)]
  | e :: es => if e.1 = key then (key, value) :: es else e :: put es key value

/-- Enter all pairs in turn. -/
def ofList (pairs : List (String × α)) : Keyed α :=
  pairs.foldl (fun entries e => put entries e.1 e.2) []

/-- The value that was entered is found under its key. -/
theorem get?_put_self (entries : Keyed α) (key : String) (value : α) :
    get? (put entries key value) key = some value := by
  induction entries with
  | nil => simp [put, get?]
  | cons e es ih => by_cases h : e.1 = key <;> simp [put, get?, h, ih]

/-- Under any other key a look-up finds what it found before. -/
theorem get?_put_of_ne (entries : Keyed α) {key other : String} (value : α)
    (h : other ≠ key) : get? (put entries key value) other = get? entries other := by
  induction entries with
  | nil => simp [put, get?, Ne.symm h]
  | cons e es ih =>
      by_cases he : e.1 = key
      · simp [put, get?, he, Ne.symm h]
      · simp [put, get?, he, ih]

/-- A key that is there keeps its place. -/
theorem keys_put_of_mem {entries : Keyed α} {key : String} (value : α)
    (h : key ∈ keys entries) : keys (put entries key value) = keys entries := by
  induction entries with
  | nil => simp at h
  | cons e es ih =>
      by_cases he : e.1 = key
      · simp [put, he]
      · have hm : key ∈ keys es := by
          simp only [keys_cons, List.mem_cons] at h
          exact h.resolve_left (Ne.symm he)
        simp [put, he, ih hm]

/-- A new key comes last. -/
theorem keys_put_of_not_mem {entries : Keyed α} {key : String} (value : α)
    (h : key ∉ keys entries) : keys (put entries key value) = keys entries ++ [key] := by
  induction entries with
  | nil => simp [put]
  | cons e es ih =>
      simp only [keys_cons, List.mem_cons, not_or] at h
      simp [put, Ne.symm h.1, ih h.2]

/-- What holds of all entries still holds when one more is entered. -/
theorem forall_mem_put {P : String × α → Prop} {entries : Keyed α} {key : String} {value : α}
    (h : ∀ e ∈ entries, P e) (hvalue : P (key, value)) : ∀ e ∈ put entries key value, P e := by
  induction entries with
  | nil => simpa [put] using hvalue
  | cons e es ih =>
      have htail : ∀ x ∈ es, P x := fun x hx => h x (List.mem_cons_of_mem e hx)
      intro x hx
      rw [put] at hx
      split at hx
      · rcases List.mem_cons.mp hx with rfl | hx
        · exact hvalue
        · exact htail x hx
      · rcases List.mem_cons.mp hx with rfl | hx
        · exact h x List.mem_cons_self
        · exact ih htail x hx

/-- Entering a value keeps the keys distinct. -/
theorem nodup_keys_put {entries : Keyed α} (key : String) (value : α)
    (h : (keys entries).Nodup) : (keys (put entries key value)).Nodup := by
  by_cases hm : key ∈ keys entries
  · rw [keys_put_of_mem value hm]; exact h
  · rw [keys_put_of_not_mem value hm, List.nodup_append]
    refine ⟨h, by simp, ?_⟩
    intro a ha b hb hab
    simp only [List.mem_singleton] at hb
    exact hm (hb ▸ hab ▸ ha)

/-- However the pairs repeat their keys, the entries do not. -/
theorem nodup_keys_ofList (pairs : List (String × α)) : (keys (ofList pairs)).Nodup := by
  suffices h : ∀ (start : Keyed α), (keys start).Nodup →
      (keys (pairs.foldl (fun entries e => put entries e.1 e.2) start)).Nodup from
    h [] (by simp)
  induction pairs with
  | nil => intro start h; exact h
  | cons e es ih => intro start h; exact ih _ (nodup_keys_put e.1 e.2 h)

end Keyed

end Sift
