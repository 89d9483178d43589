import Sift.Keyed

/-!
# Sift.Proofs.Keyed

What is known of all keyed entries, and what a look-up finds among them.
-/

namespace Sift.Keyed

variable {α : Type u}

/-- What holds of all pairs holds of the entries they make. -/
theorem forall_mem_ofList {P : String × α → Prop} {pairs : List (String × α)}
    (h : ∀ e ∈ pairs, P e) : ∀ e ∈ ofList pairs, P e := by
  suffices hfold : ∀ start : Keyed α, (∀ e ∈ start, P e) →
      ∀ e ∈ pairs.foldl (fun entries e => put entries e.1 e.2) start, P e from
    hfold [] (by simp)
  induction pairs with
  | nil => intro start hstart; exact hstart
  | cons e es ih =>
      intro start hstart
      refine ih (fun x hx => h x (List.mem_cons_of_mem e hx)) _ ?_
      exact forall_mem_put hstart (h e List.mem_cons_self)

/-- An entry under a new key is the last one. -/
theorem put_of_not_mem {entries : Keyed α} {key : String} (value : α)
    (h : key ∉ keys entries) : put entries key value = entries ++ [(key, value)] := by
  induction entries with
  | nil => rfl
  | cons e es ih =>
      rw [keys_cons, List.mem_cons, not_or] at h
      rw [put, if_neg (Ne.symm h.1), ih h.2, List.cons_append]

/-- Pairs with distinct keys are entries already. -/
theorem ofList_of_nodup {pairs : List (String × α)} (h : (keys pairs).Nodup) :
    ofList pairs = pairs := by
  suffices hfold : ∀ start : Keyed α, (keys (start ++ pairs)).Nodup →
      pairs.foldl (fun entries e => put entries e.1 e.2) start = start ++ pairs from
    hfold [] h
  clear h
  induction pairs with
  | nil => exact fun start _ => (List.append_nil start).symm
  | cons e es ih =>
      intro start h
      have hnew : e.1 ∉ keys start := by
        rw [keys, List.map_append, List.nodup_append] at h
        exact fun hmem => h.2.2 _ hmem _ List.mem_cons_self rfl
      rw [List.foldl_cons, put_of_not_mem e.2 hnew, ih]
      · rw [List.append_assoc, List.singleton_append]
      · rwa [List.append_assoc, List.singleton_append]

/-- Entries with each value passed through a function. -/
def mapValues {β : Type v} (f : α → β) (entries : List (String × α)) : List (String × β) :=
  entries.map fun e => (e.1, f e.2)

@[simp] theorem mapValues_nil {β : Type v} (f : α → β) : mapValues f [] = [] := rfl

@[simp] theorem mapValues_cons {β : Type v} (f : α → β) (e : String × α)
    (es : List (String × α)) : mapValues f (e :: es) = (e.1, f e.2) :: mapValues f es := rfl

/-- It is all one whether a value is passed through a function before or after it is entered. -/
theorem mapValues_put {β : Type v} (f : α → β) (entries : Keyed α) (key : String) (value : α) :
    mapValues f (put entries key value) = put (mapValues f entries) key (f value) := by
  induction entries with
  | nil => rfl
  | cons e es ih =>
      by_cases h : e.1 = key
      · simp [put, h]
      · simp [put, h, ih]

/-- It is all one whether values are passed through a function before or after all pairs are
entered. -/
theorem mapValues_ofList {β : Type v} (f : α → β) (pairs : List (String × α)) :
    mapValues f (ofList pairs) = ofList (mapValues f pairs) := by
  suffices hfold : ∀ start : Keyed α,
      mapValues f (pairs.foldl (fun entries e => put entries e.1 e.2) start) =
        (mapValues f pairs).foldl (fun entries e => put entries e.1 e.2) (mapValues f start) from
    hfold []
  induction pairs with
  | nil => exact fun _ => rfl
  | cons e es ih =>
      intro start
      rw [List.foldl_cons, ih, mapValues_put, mapValues_cons, List.foldl_cons]

end Sift.Keyed
