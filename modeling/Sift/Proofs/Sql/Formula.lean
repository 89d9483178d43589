import Sift.Proofs.Sql.Lexer

/-!
# Sift.Proofs.Sql.Formula

Conditions as an engine reads them.  `AND` binds tighter than `OR`, and `NOT` tighter than
both; parentheses and `EXISTS` hold conditions of their own; the first `AND` behind
`BETWEEN` belongs to it.  What stands between these words is a test, of which nothing more
is known.  Tests, and so conditions, are true, false or unknown.

Texts in which `AND` may be something else again are not read.

Main statements:

* `run_of_conjuncts` — a text without `OR` outside of parentheses is read, wherever a
  condition may begin, as the further conditions that it is by itself;
* `conjuncts_append_and`, `conjuncts_exists` — so such texts stay what they are on either
  side of `AND` and in `EXISTS`.
-/

namespace Sift.Sql

/-! ## Truth -/

/-- The outcome of a test. -/
inductive Truth where
  | true
  | unknown
  | false
deriving DecidableEq, Repr

namespace Truth

def not : Truth → Truth
  | true => false
  | unknown => unknown
  | false => true

def and : Truth → Truth → Truth
  | false, _ => false
  | _, false => false
  | true, b => b
  | a, true => a
  | unknown, unknown => unknown

def or : Truth → Truth → Truth
  | true, _ => true
  | _, true => true
  | false, b => b
  | a, false => a
  | unknown, unknown => unknown

def ofBool (b : Bool) : Truth := if b then true else false

theorem and_true (a : Truth) : a.and true = a := by cases a <;> rfl

theorem true_and (a : Truth) : true.and a = a := by cases a <;> rfl

theorem and_assoc (a b c : Truth) : (a.and b).and c = a.and (b.and c) := by
  cases a <;> cases b <;> cases c <;> rfl

end Truth

/-! ## Formulas -/

mutual

/-- A condition. -/
inductive Formula where
  /-- A comparison, or whatever else can be true of a row. -/
  | test (items : List Item)
  | negation (φ : Formula)
  | conjunction (φs : List Formula)
  | disjunction (φs : List Formula)
  /-- Some row of a source satisfies a condition. -/
  | exists (source : List Item) (φ : Formula)

/-- What a test is made of. -/
inductive Item where
  | token (t : Token)
  /-- A condition in parentheses, or a list of values, which is one as well; behind a
  source if it is that of a sub-query. -/
  | group (source : Option (List Item)) (φ : Formula)

end

/-- What tests mean of rows, and which rows sources hold.  A row comes with those of the
queries around it. -/
structure Interpretation (ρ : Type) where
  test : List Item → ρ → Truth
  rows : List Item → ρ → List ρ

namespace Formula

mutual

/-- What a condition is of a row. -/
def value {ρ : Type} (I : Interpretation ρ) : Formula → ρ → Truth
  | test items, r => I.test items r
  | negation φ, r => (φ.value I r).not
  | conjunction φs, r => allOf I φs r
  | disjunction φs, r => anyOf I φs r
  | .exists source φ, r => .ofBool ((I.rows source r).any fun r' => φ.value I r' = .true)

/-- Whether all conditions are true. -/
def allOf {ρ : Type} (I : Interpretation ρ) : List Formula → ρ → Truth
  | [], _ => .true
  | φ :: φs, r => (φ.value I r).and (allOf I φs r)

/-- Whether some condition is true. -/
def anyOf {ρ : Type} (I : Interpretation ρ) : List Formula → ρ → Truth
  | [], _ => .false
  | φ :: φs, r => (φ.value I r).or (anyOf I φs r)

end

def all : List Formula → Formula
  | [φ] => φ
  | φs => conjunction φs

def any : List Formula → Formula
  | [φ] => φ
  | φs => disjunction φs

section Value

variable {ρ : Type} (I : Interpretation ρ)

@[simp] theorem value_conjunction (φs : List Formula) (r : ρ) :
    (conjunction φs).value I r = allOf I φs r := by
  rw [value]

theorem value_all (φs : List Formula) (r : ρ) : (all φs).value I r = allOf I φs r := by
  unfold all
  split
  · next φ => simp [allOf, Truth.and_true]
  · exact value_conjunction I _ r

theorem allOf_append (φs ψs : List Formula) (r : ρ) :
    allOf I (φs ++ ψs) r = (allOf I φs r).and (allOf I ψs r) := by
  induction φs with
  | nil => simp [allOf, Truth.true_and]
  | cons φ φs ih => simp [allOf, ih, Truth.and_assoc]

end Value

end Formula

/-! ## Reading conditions -/

/-- Whether a token is a keyword, in letters of any case. -/
def Token.is (t : Token) (keyword : String) : Bool :=
  match t with
  | .word text => Text.lowercase text = keyword
  | _ => false

/-- The condition that items make up.  `TRUE` is one that asks for nothing. -/
def Formula.ofItems : List Item → Formula
  | [.group none φ] => φ
  | [.token t] => if t.is "true" then .conjunction [] else .test [.token t]
  | [.token t, .group (some source) φ] =>
    if t.is "exists" then .exists source φ else .test [.token t, .group (some source) φ]
  | .token t :: items =>
    if t.is "not" then .negation (ofItems items) else .test (.token t :: items)
  | items => .test items

/-- What has been read of a text, or of what stands in parentheses. -/
structure Level where
  /-- What stood in front of `WHERE`. -/
  source : Option (List Item)
  /-- What stood in front of each `OR`. -/
  alternatives : List Formula
  /-- What stood in front of each `AND` since then. -/
  conditions : List Formula
  /-- What has been read since then. -/
  items : List Item
  /-- Whether there was a `BETWEEN` among it, and no `AND` yet. -/
  between : Bool

namespace Level

/-- Nothing has been read. -/
def fresh : Level := ⟨none, [], [], [], false⟩

def push (ℓ : Level) (item : Item) : Level := { ℓ with items := ℓ.items ++ [item] }

/-- Whether a condition may end here. -/
def complete (ℓ : Level) : Bool := !ℓ.between && !ℓ.items.isEmpty

/-- The conditions since the last `OR`. -/
def current (ℓ : Level) : List Formula := ℓ.conditions ++ [.ofItems ℓ.items]

def behindAnd (ℓ : Level) (t : Token) : Option Level :=
  if ℓ.between then some { ℓ.push (.token t) with between := false }
  else if ℓ.complete then some { ℓ with conditions := ℓ.current, items := [] }
  else none

def behindOr (ℓ : Level) : Option Level :=
  if ℓ.complete then
    some
      { ℓ with
        alternatives := ℓ.alternatives ++ [.all ℓ.current]
        conditions := []
        items := [] }
  else none

def behindWhere (ℓ : Level) : Option Level :=
  if ℓ.source.isNone && ℓ.alternatives.isEmpty && ℓ.conditions.isEmpty && ℓ.complete then
    some { ℓ with source := some ℓ.items, items := [] }
  else none

/-- Behind a token other than a parenthesis.  In `CASE` all bets are off. -/
def step (ℓ : Level) (t : Token) : Option Level :=
  if t.is "and" then ℓ.behindAnd t
  else if t.is "or" then ℓ.behindOr
  else if t.is "where" then ℓ.behindWhere
  else if t.is "between" then
    if ℓ.between then none else some { ℓ.push (.token t) with between := true }
  else if t.is "case" then none
  else some (ℓ.push (.token t))

/-- What has been read, if a condition may end here. -/
def formula? (ℓ : Level) : Option Formula :=
  if ℓ.complete then some (.any (ℓ.alternatives ++ [.all ℓ.current])) else none

/-- What has been read in parentheses.  There may be nothing in them. -/
def group? (ℓ : Level) : Option Item :=
  if ℓ.source.isNone && ℓ.alternatives.isEmpty && ℓ.conditions.isEmpty && ℓ.items.isEmpty then
    some (.group none (.test []))
  else ℓ.formula?.map (.group ℓ.source)

/-- The conditions that have been read, if there is no `OR` between them. -/
def conjuncts? (ℓ : Level) : Option (List Formula) :=
  if ℓ.complete && ℓ.alternatives.isEmpty then some ℓ.current else none

end Level

/-- What has been read in the parentheses that are open, and around them. -/
abbrev Stack := List Level

namespace Stack

/-- Behind a token. -/
def step : Stack → Token → Option Stack
  | s, .mark '(' => some (.fresh :: s)
  | ℓ :: outer :: s, .mark ')' => ℓ.group?.map fun item => outer.push item :: s
  | _, .mark ')' => none
  | [ℓ], t => if t.is "where" then none else (ℓ.step t).map ([·])
  | ℓ :: s, t => (ℓ.step t).map (· :: s)
  | [], _ => none

def run : Stack → List Token → Option Stack
  | s, [] => some s
  | s, t :: ts => (step s t).bind fun s' => run s' ts

end Stack

/-- What is read at last of tokens, once all parentheses are closed. -/
def closed? (ts : List Token) : Option Level :=
  match Stack.run [.fresh] ts with
  | some [ℓ] => some ℓ
  | _ => none

/-- The condition that a text is. -/
def read (d : Dialect) (text : String) : Option Formula := do
  let ts ← lex d text
  let ℓ ← closed? ts
  ℓ.formula?

/-- The conditions that tokens are, if there is no `OR` outside of parentheses. -/
def conjuncts? (ts : List Token) : Option (List Formula) := do
  let ℓ ← closed? ts
  ℓ.conjuncts?

/-- The conditions that a text is, if there is no `OR` outside of parentheses. -/
def readConjuncts (d : Dialect) (text : String) : Option (List Formula) := do
  let ts ← lex d text
  conjuncts? ts

/-! ## Reading on -/

namespace Level

/-- A level with what has been read of a further text behind it. -/
def after (base ℓ : Level) : Level :=
  { ℓ with
    source := base.source
    alternatives := base.alternatives
    conditions := base.conditions ++ ℓ.conditions }

theorem after_push (base ℓ : Level) (item : Item) :
    (base.after ℓ).push item = base.after (ℓ.push item) := rfl

theorem complete_after (base ℓ : Level) : (base.after ℓ).complete = ℓ.complete := rfl

theorem current_after (base ℓ : Level) :
    (base.after ℓ).current = base.conditions ++ ℓ.current :=
  List.append_assoc ..

theorem behindAnd_after (base : Level) {ℓ ℓ' : Level} {t : Token}
    (h : ℓ.behindAnd t = some ℓ') :
    ℓ'.alternatives = ℓ.alternatives ∧ (base.after ℓ).behindAnd t = some (base.after ℓ') := by
  have hbetween : (base.after ℓ).between = ℓ.between := rfl
  unfold behindAnd at h ⊢
  rw [hbetween, complete_after, current_after]
  split at h
  · next hopen =>
      obtain rfl := Option.some.inj h
      rw [if_pos hopen]
      exact ⟨rfl, rfl⟩
  · next hopen =>
      rw [if_neg hopen]
      split at h
      · next hcomplete =>
          obtain rfl := Option.some.inj h
          rw [if_pos hcomplete]
          exact ⟨rfl, rfl⟩
      · cases h

theorem alternatives_of_behindOr {ℓ ℓ' : Level} (h : ℓ.behindOr = some ℓ') :
    ℓ'.alternatives ≠ [] := by
  unfold behindOr at h
  split at h
  · obtain rfl := Option.some.inj h
    simp
  · cases h

/-- A token that leads to no alternative leads to the same behind what was read before. -/
theorem step_after (base : Level) {ℓ ℓ' : Level} {t : Token} (hwhere : t.is "where" = false)
    (h : ℓ.step t = some ℓ') (hsingle : ℓ'.alternatives = []) :
    ℓ.alternatives = [] ∧ (base.after ℓ).step t = some (base.after ℓ') := by
  have hbetween : (base.after ℓ).between = ℓ.between := rfl
  unfold step at h ⊢
  rw [hbetween]
  split at h
  · next hand =>
      rw [if_pos hand]
      obtain ⟨halternatives, hafter⟩ := behindAnd_after base h
      exact ⟨halternatives ▸ hsingle, hafter⟩
  · next hand =>
      rw [if_neg hand]
      split at h
      · exact absurd hsingle (alternatives_of_behindOr h)
      · next hor =>
          rw [if_neg hor]
          simp only [hwhere, Bool.false_eq_true, if_false] at h ⊢
          split at h
          · next hkeyword =>
              rw [if_pos hkeyword]
              split at h
              · cases h
              · next hopen =>
                  obtain rfl := Option.some.inj h
                  rw [if_neg hopen]
                  exact ⟨hsingle, rfl⟩
          · next hkeyword =>
              rw [if_neg hkeyword]
              split at h
              · cases h
              · next hcase =>
                  obtain rfl := Option.some.inj h
                  rw [if_neg hcase]
                  exact ⟨hsingle, rfl⟩

end Level

namespace Stack

/-- Behind a token that is no parenthesis. -/
theorem step_cons {ℓ : Level} {s : Stack} {t : Token} (hopen : t ≠ .mark '(')
    (hclose : t ≠ .mark ')') (hs : s ≠ []) : step (ℓ :: s) t = (ℓ.step t).map (· :: s) := by
  unfold step
  split <;> simp_all

theorem step_singleton {ℓ : Level} {t : Token} (hopen : t ≠ .mark '(')
    (hclose : t ≠ .mark ')') :
    step [ℓ] t = if t.is "where" then none else (ℓ.step t).map ([·]) := by
  unfold step
  split <;> simp_all

/-- Behind a token that may stand inside of parentheses and outside. -/
theorem step_of_step {ℓ ℓ' : Level} {t : Token} (h : ℓ.step t = some ℓ') (hopen : t ≠ .mark '(')
    (hclose : t ≠ .mark ')') (hwhere : t.is "where" = false) (s : Stack) :
    step (ℓ :: s) t = some (ℓ' :: s) := by
  by_cases hs : s = []
  · subst hs
    simp [step_singleton hopen hclose, hwhere, h]
  · simp [step_cons hopen hclose hs, h]

/-- What a token does to the parentheses that a text opens, and to the level that the text
stands on, it does wherever the text stands, if it leads to no alternative there. -/
theorem step_append {inner : List Level} {b : Level} {t : Token} {s' : Stack}
    (h : step (inner ++ [b]) t = some s') :
    ∃ inner' b', s' = inner' ++ [b'] ∧ (b'.alternatives = [] → b.alternatives = [] ∧
      ∀ (base : Level) (s : Stack),
        step (inner ++ base.after b :: s) t = some (inner' ++ base.after b' :: s)) := by
  by_cases hopen : t = .mark '('
  · subst hopen
    obtain rfl := Option.some.inj h
    exact ⟨.fresh :: inner, b, rfl, fun hsingle => ⟨hsingle, fun base s => rfl⟩⟩
  by_cases hclose : t = .mark ')'
  · subst hclose
    match inner, h with
    | [ℓ], h =>
        obtain ⟨item, hitem, rfl⟩ := Option.map_eq_some_iff.mp h
        refine ⟨[], b.push item, rfl, fun hsingle => ⟨hsingle, fun base s => ?_⟩⟩
        simp [step, hitem, Level.after_push]
    | ℓ :: outer :: inner, h =>
        obtain ⟨item, hitem, rfl⟩ := Option.map_eq_some_iff.mp h
        refine ⟨outer.push item :: inner, b, rfl, fun hsingle => ⟨hsingle, fun base s => ?_⟩⟩
        simp [step, hitem]
  match inner, h with
  | [], h =>
      rw [List.nil_append, step_singleton hopen hclose] at h
      split at h
      · cases h
      · next hwhere =>
          obtain ⟨b', hb', rfl⟩ := Option.map_eq_some_iff.mp h
          refine ⟨[], b', rfl, fun hsingle => ?_⟩
          have hwhere : t.is "where" = false := by simpa using hwhere
          refine ⟨(b.step_after hwhere hb' hsingle).1, fun base s => ?_⟩
          exact step_of_step (base.step_after hwhere hb' hsingle).2 hopen hclose hwhere s
  | ℓ :: inner, h =>
      rw [List.cons_append, step_cons hopen hclose (by simp)] at h
      obtain ⟨ℓ', hℓ', rfl⟩ := Option.map_eq_some_iff.mp h
      refine ⟨ℓ' :: inner, b, rfl, fun hsingle => ⟨hsingle, fun base s => ?_⟩⟩
      simp [step_cons hopen hclose, hℓ']

/-- The same is so of tokens in turn. -/
theorem run_append {inner : List Level} {b : Level} {ts : List Token} {s' : Stack}
    (h : run (inner ++ [b]) ts = some s') :
    ∃ inner' b', s' = inner' ++ [b'] ∧ (b'.alternatives = [] → b.alternatives = [] ∧
      ∀ (base : Level) (s : Stack),
        run (inner ++ base.after b :: s) ts = some (inner' ++ base.after b' :: s)) := by
  induction ts generalizing inner b with
  | nil =>
      obtain rfl := Option.some.inj h
      exact ⟨inner, b, rfl, fun hsingle => ⟨hsingle, fun base s => rfl⟩⟩
  | cons t ts ih =>
      obtain ⟨s₁, hstep, hrun⟩ := Option.bind_eq_some_iff.mp h
      obtain ⟨inner₁, b₁, rfl, hfirst⟩ := step_append hstep
      obtain ⟨inner', b', rfl, hrest⟩ := ih hrun
      refine ⟨inner', b', rfl, fun hsingle => ?_⟩
      obtain ⟨hsingle₁, hrest⟩ := hrest hsingle
      obtain ⟨hsingle₀, hfirst⟩ := hfirst hsingle₁
      refine ⟨hsingle₀, fun base s => ?_⟩
      rw [run, hfirst, Option.bind_some, hrest]

theorem run_concat (s : Stack) (ts us : List Token) :
    run s (ts ++ us) = (run s ts).bind fun s' => run s' us := by
  induction ts generalizing s with
  | nil => rfl
  | cons t ts ih =>
      rw [List.cons_append, run, run]
      cases step s t with
      | none => rfl
      | some s' => exact ih s'

end Stack

/-! ## Texts without alternatives -/

/-- Whether a condition may begin. -/
structure Level.Begins (ℓ : Level) : Prop where
  items : ℓ.items = []
  between : ℓ.between = false

theorem Level.begins_fresh : fresh.Begins := ⟨rfl, rfl⟩

theorem Level.after_fresh {base : Level} (h : base.Begins) : base.after fresh = base := by
  obtain ⟨source, alternatives, conditions, items, between⟩ := base
  obtain rfl : items = [] := h.items
  obtain rfl : between = false := h.between
  simp [after, fresh]

theorem closed_eq_some_iff {ts : List Token} {ℓ : Level} :
    closed? ts = some ℓ ↔ Stack.run [.fresh] ts = some [ℓ] := by
  unfold closed?
  split
  · next heq => simp [heq]
  · next hne =>
      constructor
      · exact nofun
      · exact fun h => absurd h (hne ℓ)

/-- A level that holds conditions without an alternative. -/
theorem Level.conjuncts_eq_some_iff {ℓ : Level} {φs : List Formula} :
    ℓ.conjuncts? = some φs ↔ ℓ.complete = true ∧ ℓ.alternatives = [] ∧ ℓ.current = φs := by
  unfold conjuncts?
  split
  · next h => simp_all
  · next h => simp_all

/-- A text without alternatives is read, wherever a condition may begin, as the further
conditions that it is by itself. -/
theorem run_of_conjuncts {ts : List Token} {φs : List Formula} (h : conjuncts? ts = some φs) :
    ∃ b, b.conjuncts? = some φs ∧ ∀ base : Level, base.Begins → ∀ s,
      Stack.run (base :: s) ts = some (base.after b :: s) := by
  obtain ⟨b, hclosed, hb⟩ := Option.bind_eq_some_iff.mp h
  refine ⟨b, hb, fun base hbase s => ?_⟩
  have hfresh : Stack.run ([] ++ [.fresh]) ts = some [b] := closed_eq_some_iff.mp hclosed
  obtain ⟨inner, b', hstack, hrun⟩ := Stack.run_append hfresh
  obtain ⟨rfl, rfl⟩ : inner = [] ∧ b' = b := by
    cases inner with
    | nil => exact ⟨rfl, (List.singleton_inj.mp hstack).symm⟩
    | cons ℓ inner => simp at hstack
  have hafter := (hrun (Level.conjuncts_eq_some_iff.mp hb).2.1).2 base s
  rwa [Level.after_fresh hbase] at hafter

/-- Behind a text without alternatives and `AND` a further condition may begin. -/
theorem run_and {ts : List Token} {φs : List Formula} (h : conjuncts? ts = some φs)
    {base : Level} (hbase : base.Begins) (s : Stack) :
    Stack.run (base :: s) (ts ++ [.word "AND"]) =
      some ({ base with conditions := base.conditions ++ φs } :: s) := by
  obtain ⟨b, hb, hrun⟩ := run_of_conjuncts h
  obtain ⟨hcomplete, -, rfl⟩ := Level.conjuncts_eq_some_iff.mp hb
  have hand : Token.is (.word "AND") "and" = true := by decide
  have hwhere : Token.is (.word "AND") "where" = false := by decide
  have hbetween : (base.after b).between = false := by
    rw [Level.complete, Bool.and_eq_true, Bool.not_eq_true'] at hcomplete
    exact hcomplete.1
  have hstep : (base.after b).step (.word "AND") =
      some { base with conditions := base.conditions ++ b.current } := by
    rw [Level.step, if_pos hand, Level.behindAnd, hbetween, if_neg Bool.false_ne_true,
      Level.complete_after, if_pos hcomplete, Level.current_after]
    obtain ⟨source, alternatives, conditions, items, between⟩ := base
    obtain rfl : items = [] := hbase.items
    obtain rfl : between = false := hbase.between
    simp [Level.after]
  rw [Stack.run_concat, hrun base hbase s, Option.bind_some, Stack.run,
    Stack.step_of_step hstep (by decide) (by decide) hwhere]
  rfl

/-- `AND` joins texts without alternatives. -/
theorem conjuncts_append_and {ts us : List Token} {φs ψs : List Formula}
    (hts : conjuncts? ts = some φs) (hus : conjuncts? us = some ψs) :
    conjuncts? (ts ++ .word "AND" :: us) = some (φs ++ ψs) := by
  obtain ⟨b, hb, hrun⟩ := run_of_conjuncts hus
  obtain ⟨hcomplete, halternatives, rfl⟩ := Level.conjuncts_eq_some_iff.mp hb
  have hfirst := run_and hts Level.begins_fresh []
  have hrest := hrun { Level.fresh with conditions := φs } ⟨rfl, rfl⟩ []
  have hclosed : closed? (ts ++ .word "AND" :: us) =
      some ({ Level.fresh with conditions := φs }.after b) := by
    rw [closed_eq_some_iff, List.append_cons, Stack.run_concat, hfirst, Option.bind_some]
    exact hrest
  rw [conjuncts?, hclosed]
  exact Level.conjuncts_eq_some_iff.mpr ⟨hcomplete, rfl, Level.current_after ..⟩

/-! ## Tests -/

/-- Whether a token is one of a test wherever it stands. -/
def Token.isOrdinary (t : Token) : Bool :=
  t ≠ .mark '(' && t ≠ .mark ')' && !(["and", "or", "where", "between", "case"].any t.is)

theorem Level.step_of_isOrdinary {ℓ : Level} {t : Token} (h : t.isOrdinary = true) :
    ℓ.step t = some (ℓ.push (.token t)) := by
  simp only [Token.isOrdinary, List.any_cons, List.any_nil, Bool.or_false, Bool.and_eq_true,
    Bool.not_eq_true', Bool.or_eq_false_iff] at h
  simp [step, h]

def Level.extend (ℓ : Level) (items : List Item) : Level := { ℓ with items := ℓ.items ++ items }

/-- Ordinary tokens are taken for items. -/
theorem run_ordinary {ts : List Token} (h : ∀ t ∈ ts, t.isOrdinary = true) (ℓ : Level)
    (s : Stack) : Stack.run (ℓ :: s) ts = some (ℓ.extend (ts.map .token) :: s) := by
  induction ts generalizing ℓ with
  | nil => simp [Stack.run, Level.extend]
  | cons t ts ih =>
      have ht := h t (List.mem_cons_self ..)
      have hstep : Stack.step (ℓ :: s) t = some (ℓ.push (.token t) :: s) := by
        have hℓ := ℓ.step_of_isOrdinary ht
        simp only [Token.isOrdinary, List.any_cons, List.any_nil, Bool.or_false, Bool.and_eq_true,
          Bool.not_eq_true', Bool.or_eq_false_iff, decide_eq_true_eq] at ht
        exact Stack.step_of_step hℓ ht.1.1 ht.1.2 ht.2.2.2.1 s
      rw [Stack.run, hstep, Option.bind_some, ih fun u hu => h u (List.mem_cons_of_mem _ hu)]
      simp [Level.extend, Level.push]

/-- A text of ordinary tokens is one condition. -/
theorem conjuncts_ordinary {ts : List Token} (h : ∀ t ∈ ts, t.isOrdinary = true) (hne : ts ≠ []) :
    conjuncts? ts = some [.ofItems (ts.map .token)] := by
  rw [conjuncts?, closed_eq_some_iff.mpr (run_ordinary h .fresh [])]
  simp [Level.conjuncts?, Level.complete, Level.current, Level.extend, Level.fresh, hne]

/-- So is one with a list of values at its end. -/
theorem conjuncts_list {ts us : List Token} (hts : ∀ t ∈ ts, t.isOrdinary = true)
    (hus : ∀ t ∈ us, t.isOrdinary = true) :
    ∃ φ, conjuncts? (ts ++ .mark '(' :: (us ++ [.mark ')'])) = some [φ] := by
  obtain ⟨item, hitem⟩ : ∃ item, (Level.fresh.extend (us.map .token)).group? = some item := by
    cases us with
    | nil => exact ⟨_, rfl⟩
    | cons u us => exact ⟨_, rfl⟩
  have hclosed : closed? (ts ++ .mark '(' :: (us ++ [.mark ')'])) =
      some ((Level.fresh.extend (ts.map .token)).push item) := by
    rw [closed_eq_some_iff, Stack.run_concat, run_ordinary hts, Option.bind_some, Stack.run,
      Stack.step, Option.bind_some, Stack.run_concat, run_ordinary hus, Option.bind_some,
      Stack.run, Stack.step, hitem]
    rfl
  refine ⟨.ofItems (ts.map .token ++ [item]), ?_⟩
  rw [conjuncts?, hclosed]
  simp [Level.conjuncts?, Level.complete, Level.current, Level.extend, Level.push, Level.fresh]

/-- So is one with the `AND` of a `BETWEEN` in it. -/
theorem conjuncts_between {ts low high : List Token} (hts : ∀ t ∈ ts, t.isOrdinary = true)
    (hlow : ∀ t ∈ low, t.isOrdinary = true) (hhigh : ∀ t ∈ high, t.isOrdinary = true) :
    ∃ φ, conjuncts? (ts ++ .word "BETWEEN" :: (low ++ .word "AND" :: high)) = some [φ] := by
  have hbetween : (Level.fresh.extend (ts.map .token)).step (.word "BETWEEN") =
      some { (Level.fresh.extend (ts.map .token)).push (.token (.word "BETWEEN")) with
        between := true } := by
    rw [Level.step, if_neg (by decide), if_neg (by decide), if_neg (by decide),
      if_pos (by decide)]
    rfl
  have hand : ∀ ℓ : Level, ℓ.between = true → ℓ.step (.word "AND") =
      some { ℓ.push (.token (.word "AND")) with between := false } := by
    intro ℓ hℓ
    rw [Level.step, if_pos (by decide), Level.behindAnd, if_pos hℓ]
  have hrun : ∃ ℓ, Stack.run [.fresh] (ts ++ .word "BETWEEN" :: (low ++ .word "AND" :: high)) =
      some [ℓ] ∧ ℓ.between = false ∧ ℓ.alternatives = [] ∧ ℓ.conditions = [] ∧ ℓ.items ≠ [] := by
    rw [Stack.run_concat, run_ordinary hts, Option.bind_some, Stack.run,
      Stack.step_of_step hbetween (by decide) (by decide) (by decide), Option.bind_some,
      Stack.run_concat, run_ordinary hlow, Option.bind_some, Stack.run,
      Stack.step_of_step (hand _ rfl) (by decide) (by decide) (by decide), Option.bind_some,
      run_ordinary hhigh]
    exact ⟨_, rfl, rfl, rfl, rfl, by simp [Level.extend, Level.push]⟩
  obtain ⟨ℓ, hℓ, hopen, halternatives, hconditions, hitems⟩ := hrun
  refine ⟨.ofItems ℓ.items, ?_⟩
  rw [conjuncts?, closed_eq_some_iff.mpr hℓ]
  simp [Level.conjuncts?, Level.complete, Level.current, hopen, halternatives, hconditions,
    hitems]

/-- A test for a row is one condition, whatever the texts without alternatives are that the
row has to satisfy. -/
theorem conjuncts_exists {source ts : List Token} {φs : List Formula}
    (hsource : ∀ t ∈ source, t.isOrdinary = true) (hne : source ≠ [])
    (h : conjuncts? ts = some φs) :
    conjuncts? (.word "EXISTS" :: .mark '(' ::
        (source ++ .word "WHERE" :: (ts ++ [.mark ')']))) =
      some [.exists (source.map .token) (.all φs)] := by
  obtain ⟨b, hb, hrun⟩ := run_of_conjuncts h
  obtain ⟨hcomplete, halternatives, rfl⟩ := Level.conjuncts_eq_some_iff.mp hb
  have hexists : Level.fresh.step (.word "EXISTS") =
      some (Level.fresh.push (.token (.word "EXISTS"))) :=
    Level.step_of_isOrdinary (by decide)
  have hwhere : (Level.fresh.extend (source.map .token)).step (.word "WHERE") =
      some { Level.fresh with source := some (source.map .token) } := by
    rw [Level.step, if_neg (by decide), if_neg (by decide), if_pos (by decide),
      Level.behindWhere]
    simp [Level.complete, Level.extend, Level.fresh, hne]
  have hgroup : ({ Level.fresh with source := some (source.map .token) }.after b).group? =
      some (.group (some (source.map .token)) (.all b.current)) := by
    simp only [Level.group?, Level.formula?, Level.complete_after, hcomplete, Level.current_after]
    rfl
  have hclosed : closed? (.word "EXISTS" :: .mark '(' ::
      (source ++ .word "WHERE" :: (ts ++ [.mark ')']))) =
      some ((Level.fresh.push (.token (.word "EXISTS"))).push
        (.group (some (source.map .token)) (.all b.current))) := by
    rw [closed_eq_some_iff, Stack.run,
      Stack.step_of_step hexists (by decide) (by decide) (by decide), Option.bind_some, Stack.run,
      Stack.step, Option.bind_some, Stack.run_concat, run_ordinary hsource, Option.bind_some,
      Stack.run, Stack.step_cons (by decide) (by decide) (by simp), hwhere, Option.map_some,
      Option.bind_some, Stack.run_concat, hrun _ ⟨rfl, rfl⟩, Option.bind_some, Stack.run,
      Stack.step, hgroup]
    rfl
  rw [conjuncts?, hclosed]
  rfl

/-! ## Texts -/

section Texts

variable {d : Dialect} {s t : String} {ts : List Token} {φs ψs : List Formula}

theorem readConjuncts_eq_some_iff :
    readConjuncts d s = some φs ↔ ∃ ts, lex d s = some ts ∧ conjuncts? ts = some φs :=
  Option.bind_eq_some_iff

/-- A text is read as the conditions that it is without alternatives. -/
theorem read_of_readConjuncts (h : readConjuncts d s = some φs) : read d s = some (.all φs) := by
  obtain ⟨ts, hlex, hts⟩ := readConjuncts_eq_some_iff.mp h
  obtain ⟨b, hclosed, hb⟩ := Option.bind_eq_some_iff.mp hts
  obtain ⟨hcomplete, halternatives, rfl⟩ := Level.conjuncts_eq_some_iff.mp hb
  simp [read, hlex, hclosed, Level.formula?, hcomplete, halternatives, Formula.any]

/-- `AND` joins texts without alternatives. -/
theorem readConjuncts_and (hs : readConjuncts d s = some φs) (ht : readConjuncts d t = some ψs) :
    readConjuncts d (s ++ " AND " ++ t) = some (φs ++ ψs) := by
  obtain ⟨ts, hlexs, hts⟩ := readConjuncts_eq_some_iff.mp hs
  obtain ⟨us, hlext, hus⟩ := readConjuncts_eq_some_iff.mp ht
  have hends : endsFree (s ++ " AND ") = true := by simp [endsFree, isBreak, isBlank]
  refine readConjuncts_eq_some_iff.mpr ⟨ts ++ [.word "AND"] ++ us, ?_, ?_⟩
  · exact lex_append (lex_append hlexs (lex_and d) (.inr rfl)) hlext (.inl hends)
  · rw [List.append_assoc, List.singleton_append]
    exact conjuncts_append_and hts hus

/-- A test for a row holds texts without alternatives. -/
theorem readConjuncts_exists
    (hlex : lex d s = some (.word "EXISTS" :: .mark '(' :: ts))
    (hts : ∀ t ∈ ts, t.isOrdinary = true) (hne : ts ≠ []) (ht : readConjuncts d t = some φs) :
    readConjuncts d (s ++ " WHERE " ++ t ++ ")") =
      some [.exists (ts.map .token) (.all φs)] := by
  obtain ⟨us, hlext, hus⟩ := readConjuncts_eq_some_iff.mp ht
  have hends : endsFree (s ++ " WHERE ") = true := by simp [endsFree, isBreak, isBlank]
  have hopen := lex_append (lex_append hlex (lex_where d) (.inr rfl)) hlext (.inl hends)
  refine readConjuncts_eq_some_iff.mpr ⟨_, lex_append hopen (lex_closing d) (.inr rfl), ?_⟩
  have hexists := conjuncts_exists hts hne hus
  simpa using hexists

end Texts

end Sift.Sql
