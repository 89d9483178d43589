import Sift.Proofs.Filter.Distinct

/-!
# Sift.Proofs.Filter.Decoding

Filters and values decoded kind by kind.  The kinds are tried in a fixed order and the first one
that takes a document makes the result of it, so a document could be captured by a kind that comes
too early.  What is decoded may repeat a key in an object; then the last value stands at the first
place of the key.

Main statements:

* `Value.decode?_eq`, `Filter.decode?_eq` — the first kind that takes a document makes of it what
  is made of it by cases;
* `Value.reads_iff`, `Filter.reads_iff` — that is what the document says;
* `Json.decoded` — both of a document whose integers are of 64 bits.
-/

namespace Sift

open Decimal (Binary64)

/-! ## Documents with repeated keys -/

namespace Json

mutual

/-- A document in which the last value of each key stands at the first place of the key. -/
def merged : Json → Json
  | .array items => .array (mergedItems items)
  | .object members => .object (Keyed.ofList (mergedMembers members))
  | j => j

/-- Items in each of which keys are merged. -/
def mergedItems : List Json → List Json
  | [] => []
  | j :: js => j.merged :: mergedItems js

/-- Members in each of which keys are merged. -/
def mergedMembers : List (String × Json) → List (String × Json)
  | [] => []
  | (key, j) :: ms => (key, j.merged) :: mergedMembers ms

end

mutual

/-- A document in which no object has a key twice is as it is. -/
theorem merged_of_distinct : {j : Json} → j.Distinct → j.merged = j
  | .null, _ | .bool _, _ | .number _, _ | .text _, _ => rfl
  | .array items, h => by
      rw [Distinct] at h
      rw [merged, mergedItems_of_distinct h]
  | .object members, h => by
      rw [Distinct] at h
      rw [merged, mergedMembers_of_distinct h.2, Keyed.ofList_of_nodup h.1]

/-- Items without repeated keys in them stay as they are. -/
theorem mergedItems_of_distinct : {items : List Json} → DistinctItems items →
    mergedItems items = items
  | [], _ => rfl
  | _ :: _, h => by
      rw [DistinctItems] at h
      rw [mergedItems, merged_of_distinct h.1, mergedItems_of_distinct h.2]

theorem mergedMembers_of_distinct : {members : List (String × Json)} →
    DistinctMembers members → mergedMembers members = members
  | [], _ => rfl
  | (_, _) :: _, h => by
      rw [DistinctMembers] at h
      rw [mergedMembers, merged_of_distinct h.1, mergedMembers_of_distinct h.2]

end

mutual

/-- Every integer in a document is one that a document can hold. -/
def Exact : Json → Prop
  | .number (.int n) => exactInt n = true
  | .array items => ExactItems items
  | .object members => ExactMembers members
  | _ => True

/-- So is every integer in some items. -/
def ExactItems : List Json → Prop
  | [] => True
  | j :: js => j.Exact ∧ ExactItems js

/-- So is every integer in some members. -/
def ExactMembers : List (String × Json) → Prop
  | [] => True
  | (_, j) :: ms => j.Exact ∧ ExactMembers ms

end

end Json

/-! ## Values, kind by kind -/

namespace Value

/-- The kinds of values, in the order in which they are tried. -/
def Kind.all : List Kind := [.null, .bool, .int, .float, .text, .list, .document]

mutual

/-- The value of a kind that a document is. -/
def ofKind? : Kind → Json → Option Value
  | .null, .null => some .null
  | .bool, .bool b => some (.bool b)
  | .int, .number (.int n) => if fits n then some (.int (Int64.ofInt n)) else none
  | .float, .number (.int n) => (Binary64.ofInt? n).map .float
  | .float, .number (.float x) => some (.float x)
  | .text, .text s => some (.text s)
  | .list, .array items => (decodeItems? items).map .list
  | .document, j => some (.document j.merged)
  | _, _ => none

def decodeItems? : List Json → Option (List Value)
  | [] => some []
  | j :: js => do
    let v ← Kind.all.findSome? fun kind => ofKind? kind j
    return v :: (← decodeItems? js)

end

/-- The value of the first kind that takes a document. -/
def decode? (j : Json) : Option Value := Kind.all.findSome? fun kind => ofKind? kind j

mutual

/-- The first kind that takes a document makes of it what is made of it by cases. -/
theorem decode?_eq : (j : Json) → decode? j = some (ofJson j.merged)
  | .null | .bool _ | .number (.float _) | .text _ => rfl
  | .number (.int n) => by
      cases hfits : fits n with
      | true => simp [decode?, Kind.all, ofKind?, Json.merged, ofJson, ofNumber, hfits]
      | false =>
          cases hfloat : Binary64.ofInt? n <;>
            simp [decode?, Kind.all, ofKind?, Json.merged, ofJson, ofNumber, hfits, hfloat]
  | .array items => by
      have hitems := decodeItems?_eq items
      simp [decode?, Kind.all, ofKind?, hitems, Json.merged, ofJson]
  | .object members => rfl

/-- The items of an array are decoded one by one. -/
theorem decodeItems?_eq : (items : List Json) →
    decodeItems? items = some (ofItems (Json.mergedItems items))
  | [] => rfl
  | j :: js => by
      have hj := decode?_eq j
      rw [decode?] at hj
      rw [decodeItems?, hj, decodeItems?_eq js]
      rfl

end

mutual

/-- So does the first shape that fits. -/
theorem byShape?_eq : (j : Json) → byShape? j = some (ofJson j)
  | .null | .bool _ | .number (.float _) | .text _ => rfl
  | .number (.int n) => by
      cases hfits : fits n with
      | true => simp [byShape?, plainShape?, intShape?, ofJson, ofNumber, hfits]
      | false =>
          cases hfloat : Binary64.ofInt? n <;>
            simp [byShape?, plainShape?, intShape?, floatShape?, listShape?, ofJson, ofNumber,
              hfits, hfloat]
  | .array items => by
      have hitems := itemShapes?_eq items
      simp [byShape?, plainShape?, intShape?, floatShape?, listShape?, hitems, ofJson]
  | .object members => rfl

theorem itemShapes?_eq : (items : List Json) → itemShapes? items = some (ofItems items)
  | [] => rfl
  | j :: js => by
      have hj := byShape?_eq j
      rw [byShape?] at hj
      rw [itemShapes?, hj, itemShapes?_eq js]
      rfl

end

/-! ### What a document says -/

mutual

/-- A value says what a document says. -/
inductive Reads : Json → Value → Prop
  | null : Reads .null .null
  | bool (b : Bool) : Reads (.bool b) (.bool b)
  /-- An integer of 64 bits with a sign is kept. -/
  | int {n : Int} {i : Int64} (h : i.toInt = n) : Reads (.number (.int n)) (.int i)
  /-- Any other integer becomes the nearest floating-point number. -/
  | wide {n : Int} {x : Binary64} (hn : ∀ i : Int64, i.toInt ≠ n) (h : Binary64.ofInt? n = some x) :
      Reads (.number (.int n)) (.float x)
  | float (x : Binary64) : Reads (.number (.float x)) (.float x)
  | text (s : String) : Reads (.text s) (.text s)
  /-- An array is read item by item. -/
  | list {items : List Json} {vs : List Value} (h : ReadsItems items vs) :
      Reads (.array items) (.list vs)
  /-- An object is kept as it is. -/
  | document (members : List (String × Json)) :
      Reads (.object members) (.document (.object members))

inductive ReadsItems : List Json → List Value → Prop
  | nil : ReadsItems [] []
  | cons {j : Json} {js : List Json} {v : Value} {vs : List Value} (h : Reads j v)
      (hs : ReadsItems js vs) : ReadsItems (j :: js) (v :: vs)

end

mutual

/-- A document says one thing. -/
theorem Reads.unique {j : Json} {v w : Value} : Reads j v → Reads j w → v = w
  | .null, .null | .bool _, .bool _ | .float _, .float _ | .text _, .text _ => rfl
  | .document _, .document _ => rfl
  | .int h, .int h' => congrArg int (Int64.toInt_inj.mp (h.trans h'.symm))
  | .int h, .wide hn _ | .wide hn _, .int h => absurd h (hn _)
  | .wide _ h, .wide _ h' => congrArg float (Option.some.inj (h.symm.trans h'))
  | .list h, .list h' => congrArg list (h.unique h')

/-- Items are read as one list of values at most. -/
theorem ReadsItems.unique {items : List Json} {vs ws : List Value} :
    ReadsItems items vs → ReadsItems items ws → vs = ws
  | .nil, .nil => rfl
  | .cons h hs, .cons h' hs' => by rw [h.unique h', hs.unique hs']

end

/-- An integer fits if it lies between the least and the greatest of 64 bits. -/
theorem fits_iff {n : Int} :
    fits n = true ↔ Int64.minValue.toInt ≤ n ∧ n ≤ Int64.maxValue.toInt := by
  rw [fits, Bool.and_eq_true, decide_eq_true_iff, decide_eq_true_iff]

/-- An integer that fits is kept exactly. -/
theorem toInt_ofInt_of_fits {n : Int} (h : fits n = true) : (Int64.ofInt n).toInt = n := by
  have hmax : Int64.maxValue.toInt = 2 ^ 63 - 1 := by decide
  obtain ⟨hlow, hhigh⟩ := fits_iff.mp h
  exact Int64.toInt_ofInt_of_le hlow (by omega)

/-- Every integer of 64 bits fits. -/
theorem fits_toInt (i : Int64) : fits i.toInt = true :=
  fits_iff.mpr ⟨i.minValue_le_toInt, i.toInt_le⟩

/-! ### Integers beyond those with a sign -/

/-- Rounding a quotient goes up by one at most. -/
theorem roundDiv_le (num den : Nat) : Binary64.roundDiv num den ≤ num / den + 1 := by
  unfold Binary64.roundDiv
  dsimp only
  split <;> omega

/-- An integer of 64 bits without a sign is near a finite floating-point number. -/
theorem exists_ofInt? {n : Int} (hlow : Int64.maxValue.toInt < n) (hhigh : n < UInt64.size) :
    ∃ x, Binary64.ofInt? n = some x := by
  have hmax : Int64.maxValue.toInt = 2 ^ 63 - 1 := by decide
  have hsize : UInt64.size = 2 ^ 64 := rfl
  obtain ⟨m, rfl⟩ := Int.eq_ofNat_of_zero_le (by omega : 0 ≤ n)
  have hm : 2 ^ 63 ≤ m ∧ m < 2 ^ 64 := by omega
  have hlog : m.log2 = 63 := (Nat.log2_eq_iff (by omega)).mpr hm
  have hplace : Binary64.lastPlace m 1 = 11 := by
    have hone : Nat.log2 1 = 0 := by decide
    have hleading : 1 <<< 63 ≤ m <<< 0 := by
      rw [Nat.shiftLeft_eq, Nat.one_mul]
      exact hm.1
    rw [Binary64.lastPlace, hlog, hone]
    exact congrArg (fun leading : Int => max (leading - 52) (-1074)) (if_pos hleading)
  have hround := roundDiv_le m (1 <<< 11)
  have hfinite : ((11 + 1074) <<< 52) + Binary64.roundDiv m (1 <<< 11) < 2047 <<< 52 := by
    simp only [Nat.shiftLeft_eq] at hround ⊢
    omega
  have hplaces : (Nat.toDigits 10 m).length ≤ 20 :=
    (Nat.length_toDigits_le_iff (by decide) (by decide)).mpr (by omega)
  have hdecimal : Binary64.ofDecimal? false m 0 = Binary64.ofRatio? false m 1 := by
    rw [Binary64.ofDecimal?, if_neg (by omega), if_neg (by omega), if_neg (by omega)]
    simp [Binary64.powerOfTen]
  have hnegative : decide ((m : Int) < 0) = false := by simp
  rw [Binary64.ofInt?, Int.natAbs_natCast, hnegative, hdecimal, Binary64.ofRatio?,
    if_neg (by omega)]
  simpa [Binary64.magnitude?, hplace] using hfinite

mutual

/-- What is made of a document by cases is what it says. -/
theorem reads_ofJson : {j : Json} → j.Exact → Reads j.merged (ofJson j.merged)
  | .null, _ => .null
  | .bool b, _ => .bool b
  | .number (.float x), _ => .float x
  | .text s, _ => .text s
  | .object _, _ => .document _
  | .number (.int n), h => by
      rw [Json.Exact, Json.exactInt, Bool.and_eq_true, decide_eq_true_iff, decide_eq_true_iff] at h
      change Reads _ (ofNumber (.int n))
      cases hfits : fits n with
      | true =>
          rw [ofNumber, if_pos hfits]
          exact .int (toInt_ofInt_of_fits hfits)
      | false =>
          have hwide : Int64.maxValue.toInt < n :=
            Int.not_le.mp fun hle => Bool.eq_false_iff.mp hfits (fits_iff.mpr ⟨h.1, hle⟩)
          have hn : ∀ i : Int64, i.toInt ≠ n := by
            rintro i rfl
            exact Bool.eq_false_iff.mp hfits (fits_toInt i)
          obtain ⟨x, hx⟩ := exists_ofInt? hwide h.2
          simp only [ofNumber, hfits, hx]
          exact .wide hn hx
  | .array items, h => by
      rw [Json.Exact] at h
      exact .list (readsItems_ofItems h)

/-- Items of exact numbers are read one by one. -/
theorem readsItems_ofItems : {items : List Json} → Json.ExactItems items →
    ReadsItems (Json.mergedItems items) (ofItems (Json.mergedItems items))
  | [], _ => .nil
  | _ :: _, h => by
      rw [Json.ExactItems] at h
      exact .cons (reads_ofJson h.1) (readsItems_ofItems h.2)

end

/-- A document of exact numbers is read as one value, the one that is decoded. -/
theorem reads_iff {j : Json} (h : j.Exact) {v : Value} :
    Reads j.merged v ↔ v = ofJson j.merged := by
  constructor
  · intro hv
    exact hv.unique (reads_ofJson h)
  · rintro rfl
    exact reads_ofJson h

mutual

/-- A value keeps no documents but objects. -/
def ObjectsOnly : Value → Prop
  | .document j => ∃ members, j = .object members
  | .list items => EachObjectsOnly items
  | _ => True

/-- Each of some values keeps no documents but objects. -/
def EachObjectsOnly : List Value → Prop
  | [] => True
  | v :: vs => v.ObjectsOnly ∧ EachObjectsOnly vs

end

mutual

/-- What a document says keeps no documents but objects. -/
theorem Reads.objectsOnly {j : Json} {v : Value} : Reads j v → v.ObjectsOnly
  | .null | .bool _ | .int _ | .wide _ _ | .float _ | .text _ => by simp [ObjectsOnly]
  | .list h => h.objectsOnly
  | .document members => ⟨members, rfl⟩

theorem ReadsItems.objectsOnly {items : List Json} {vs : List Value} :
    ReadsItems items vs → EachObjectsOnly vs
  | .nil => trivial
  | .cons h hs => ⟨h.objectsOnly, hs.objectsOnly⟩

end

end Value

/-! ## Filters, kind by kind -/

namespace Filter

mutual

/-- The group that a document is. -/
def group? : Json → Option Filter
  | .object members => (groupEntries? members).map fun entries => .group (Keyed.ofList entries)
  | _ => none

/-- The first filters of the members of an object: a group, or else a value. -/
def groupEntries? : List (String × Json) → Option (List (String × Filter))
  | [] => some []
  | (key, j) :: ms => do
    let f ← group? j <|> (Value.decode? j).map .leaf
    return (key, f) :: (← groupEntries? ms)

end

/-- The first filter that a document is: a group, or else a value. -/
def decode? (j : Json) : Option Filter := group? j <|> (Value.decode? j).map .leaf

/-- The members of an object are decoded under their keys. -/
theorem ofMembers_eq (members : List (String × Json)) :
    ofMembers members = Keyed.mapValues ofJson members := by
  induction members with
  | nil => rfl
  | cons m ms ih => rw [ofMembers, ih, Keyed.mapValues_cons]

mutual

/-- The first kind that takes a document makes of it what is made of it by cases. -/
theorem decode?_eq : (j : Json) → decode? j = some (ofJson j.merged)
  | .object members => by
      have hentries := groupEntries?_eq members
      rw [ofMembers_eq] at hentries
      simp [decode?, group?, hentries, Json.merged, ofJson, ofMembers_eq, Keyed.mapValues_ofList]
  | .null | .bool _ | .number (.float _) | .text _ => rfl
  | .number (.int n) => congrArg (Option.map leaf) (Value.decode?_eq (.number (.int n)))
  | .array items => congrArg (Option.map leaf) (Value.decode?_eq (.array items))

/-- A group is read with every member under its key, the last one of a repeated key. -/
theorem groupEntries?_eq : (members : List (String × Json)) →
    groupEntries? members = some (ofMembers (Json.mergedMembers members))
  | [] => rfl
  | (key, j) :: ms => by
      have hj := decode?_eq j
      rw [decode?] at hj
      rw [groupEntries?, hj, groupEntries?_eq ms]
      rfl

end

mutual

/-- So does the first shape that fits. -/
theorem byShape?_eq : (j : Json) → byShape? j = some (ofJson j)
  | .object members => by
      have hmembers := memberShapes?_eq members
      simp [byShape?, hmembers, ofJson]
  | .null | .bool _ | .number (.float _) | .text _ => rfl
  | .number (.int n) => congrArg (Option.map leaf) (Value.byShape?_eq (.number (.int n)))
  | .array items => congrArg (Option.map leaf) (Value.byShape?_eq (.array items))

/-- By their shapes members are read alike. -/
theorem memberShapes?_eq : (members : List (String × Json)) →
    memberShapes? members = some (ofMembers members)
  | [] => rfl
  | (key, j) :: ms => by
      rw [memberShapes?, byShape?_eq j, memberShapes?_eq ms]
      rfl

end

/-! ### What a document says -/

mutual

/-- A filter says what a document says. -/
inductive Reads : Json → Filter → Prop
  /-- An object is a group of what its members say, under the same keys in the same order. -/
  | group {members : List (String × Json)} {entries : List (String × Filter)}
      (h : ReadsMembers members entries) : Reads (.object members) (.group entries)
  /-- Anything else is a value. -/
  | leaf {j : Json} {v : Value} (hj : ∀ members, j ≠ .object members) (h : Value.Reads j v) :
      Reads j (.leaf v)

/-- Filters under keys say what documents under the same keys say, in turn. -/
inductive ReadsMembers : List (String × Json) → List (String × Filter) → Prop
  | nil : ReadsMembers [] []
  | cons {key : String} {j : Json} {ms : List (String × Json)} {f : Filter}
      {es : List (String × Filter)} (h : Reads j f) (hs : ReadsMembers ms es) :
      ReadsMembers ((key, j) :: ms) ((key, f) :: es)

end

mutual

/-- A document says one thing. -/
theorem Reads.unique {j : Json} {f g : Filter} : Reads j f → Reads j g → f = g
  | .group h, .group h' => congrArg group (h.unique h')
  | .group _, .leaf hj _ | .leaf hj _, .group _ => absurd rfl (hj _)
  | .leaf _ h, .leaf _ h' => congrArg leaf (h.unique h')

/-- Members are read as one group at most. -/
theorem ReadsMembers.unique {members : List (String × Json)} {es fs : List (String × Filter)} :
    ReadsMembers members es → ReadsMembers members fs → es = fs
  | .nil, .nil => rfl
  | .cons h hs, .cons h' hs' => by rw [h.unique h', hs.unique hs']

end

/-- Members that are read one by one are read as a group. -/
theorem readsMembers_ofMembers {members : List (String × Json)}
    (h : ∀ m ∈ members, Reads m.2 (ofJson m.2)) : ReadsMembers members (ofMembers members) := by
  induction members with
  | nil => exact .nil
  | cons m ms ih =>
      rw [List.forall_mem_cons] at h
      exact .cons h.1 (ih h.2)

mutual

/-- What is made of a document by cases is what it says. -/
theorem reads_ofJson : {j : Json} → j.Exact → Reads j.merged (ofJson j.merged)
  | .object members, h => by
      rw [Json.Exact] at h
      exact .group (readsMembers_ofMembers (Keyed.forall_mem_ofList (reads_of_mem h)))
  | .null, h | .bool _, h | .number _, h | .text _, h | .array _, h =>
      .leaf (fun _ => nofun) (Value.reads_ofJson h)

/-- Every member of an object of exact numbers is read. -/
theorem reads_of_mem : {members : List (String × Json)} → Json.ExactMembers members →
    ∀ m ∈ Json.mergedMembers members, Reads m.2 (ofJson m.2)
  | [], _ => fun _ hm => nomatch hm
  | _ :: _, h => by
      rw [Json.ExactMembers] at h
      rw [Json.mergedMembers, List.forall_mem_cons]
      exact ⟨reads_ofJson h.1, reads_of_mem h.2⟩

end

/-- A document of exact numbers is read as one filter, the one that is decoded. -/
theorem reads_iff {j : Json} (h : j.Exact) {f : Filter} :
    Reads j.merged f ↔ f = ofJson j.merged := by
  constructor
  · intro hf
    exact hf.unique (reads_ofJson h)
  · rintro rfl
    exact reads_ofJson h

mutual

/-- A filter keeps no documents but objects. -/
def ObjectsOnly : Filter → Prop
  | .group entries => EachObjectsOnly entries
  | .leaf v => v.ObjectsOnly

/-- Each of the filters of some entries keeps no documents but objects. -/
def EachObjectsOnly : List (String × Filter) → Prop
  | [] => True
  | (_, f) :: es => f.ObjectsOnly ∧ EachObjectsOnly es

end

mutual

/-- What a document says keeps no documents but objects. -/
theorem Reads.objectsOnly {j : Json} {f : Filter} : Reads j f → f.ObjectsOnly
  | .group h => h.objectsOnly
  | .leaf _ h => h.objectsOnly

theorem ReadsMembers.objectsOnly {members : List (String × Json)}
    {entries : List (String × Filter)} : ReadsMembers members entries → EachObjectsOnly entries
  | .nil => trivial
  | .cons h hs => ⟨h.objectsOnly, hs.objectsOnly⟩

end

end Filter

/-! ## The two ways to decode -/

/-- What is made of a document, be it in the one way or in the other. -/
structure Json.Decoded (j : Json) : Prop where
  /-- Only repeated keys are merged. -/
  merged : j.Distinct → j.merged = j
  /-- The kinds of values, tried in turn, make what is made by cases. -/
  value : Value.decode? j = some (Value.ofJson j.merged)
  valueShape : Value.byShape? j.merged = some (Value.ofJson j.merged)
  /-- So do the kinds of filters. -/
  filter : Filter.decode? j = some (Filter.ofJson j.merged)
  filterShape : Filter.byShape? j.merged = some (Filter.ofJson j.merged)
  /-- That is what the document says, and nothing else is. -/
  valueReads : ∀ v, Value.Reads j.merged v ↔ v = Value.ofJson j.merged
  filterReads : ∀ f, Filter.Reads j.merged f ↔ f = Filter.ofJson j.merged
  /-- No documents are kept in it but objects. -/
  valueObjects : (Value.ofJson j.merged).ObjectsOnly
  filterObjects : (Filter.ofJson j.merged).ObjectsOnly

/-- Every way to decode a document of exact numbers reads it as it is written. -/
theorem Json.decoded {j : Json} (h : j.Exact) : j.Decoded where
  merged := merged_of_distinct
  value := Value.decode?_eq j
  valueShape := Value.byShape?_eq j.merged
  filter := Filter.decode?_eq j
  filterShape := Filter.byShape?_eq j.merged
  valueReads _ := Value.reads_iff h
  filterReads _ := Filter.reads_iff h
  valueObjects := (Value.reads_ofJson h).objectsOnly
  filterObjects := (Filter.reads_ofJson h).objectsOnly

/-- A repeated key takes the first place and the last value, and an object in a list is kept with
the largest integer in it, which is no value. -/
theorem Json.decode?_repeated :
    let document := Json.object [("n", .int 18446744073709551615)]
    let items := Json.array [.int 9223372036854775808, document]
    let j := Json.object [("age", .bool true), ("$in", items), ("age", .object [])]
    j.Exact ∧ Filter.decode? j =
      some (.group
        [("age", .group []),
         ("$in", .leaf (.list [.float ⟨0x43e0000000000000⟩, .document document]))]) := by
  intro document items j
  have hexact : j.Exact := by
    simp [j, items, document, Exact, ExactMembers, ExactItems, int, exactInt]
  exact ⟨hexact, (decoded hexact).filter⟩

end Sift
