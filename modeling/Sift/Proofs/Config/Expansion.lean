import Sift.Proofs.Config.OnePass

/-!
# Sift.Proofs.Config.Expansion

Expanding a text against reading it once.  Expanding goes through the text once for every
reference and takes what the values before it have brought in, so that the two differ where a
value, or a value and what stands around it, makes up a reference.

The induction is over the parts of the text.  Some of the variables are known, and their
references are read as values while the others still stand as they are written; replacing one
more variable makes it known, if its reference stands nowhere else.  That it stands nowhere else
is said of the text as it is read in the end, since what is made up underway is still there.

Main statements:

* `substitute_render` — replacing one variable gives its references their value, and changes
  nothing else;
* `settled_of_ordinary` — values without dollar signs that are not empty and do not begin with
  a brace make up no reference;
* `expand_eq_onePass_of_settled` — where no reference is made up, expanding reads the text once.
-/

namespace Sift.Expansion

/-! ## Replacing one variable -/

/-- The values of some variables alone. -/
def only (known : List (List Char)) (values : List Char → Option (List Char)) :
    List Char → Option (List Char) :=
  fun name => if name ∈ known then values name else none

section Replacing

variable {values : List Char → Option (List Char)} {known : List (List Char)} {ps : List Part}

/-- A reference to a variable that is not among the known ones stays as it is written. -/
theorem text_only_of_notMem {name : List Char} (h : name ∉ known) :
    Part.text (only known values) (.reference name) = written name := by
  simp [Part.text, only, h]

/-- A part that is read otherwise in the end refers to a variable that is not known yet. -/
theorem exists_reference_of_text_ne {part : Part}
    (h : part.text (only known values) ≠ part.text values) :
    ∃ name, part = .reference name ∧ name ∉ known ∧ (values name).isSome := by
  cases part with
  | plain c => exact absurd rfl h
  | reference name =>
      have hnot : name ∉ known := fun hmem => h (by simp [Part.text, only, hmem])
      refine ⟨name, rfl, hnot, ?_⟩
      cases hvalue : values name with
      | none => exact absurd (by simp [Part.text, only, hvalue]) h
      | some value => rfl

/-- A variable that becomes known changes its references alone. -/
theorem text_only_append {part : Part} {name : List Char}
    (h : ¬ (part = .reference name ∧ name ∉ known)) :
    part.text (only (known ++ [name]) values) = part.text (only known values) := by
  cases part with
  | plain c => rfl
  | reference other =>
      by_cases hother : other = name
      · subst hother
        have hmem : other ∈ known := Decidable.byContradiction fun hnot => h ⟨rfl, hnot⟩
        simp [Part.text, only, hmem]
      · simp [Part.text, only, hother]

/-- What is read up to a closing brace while some variables are known is read in the end as
well, or else a reference to a variable that is not known yet ends there. -/
theorem prefix_or_suffix_of_render {s upTo rest : List Char}
    (hbrace : ∀ other, .reference other ∈ ps → '\x7d' ∉ other) (hupTo : '\x7d' ∉ upTo)
    (h : s ++ render (only known values) ps = upTo ++ '\x7d' :: rest) :
    upTo ++ ['\x7d'] <+: s ++ render values ps ∨
      ∃ other, .reference other ∈ ps ∧ (values other).isSome ∧ opened other <:+ upTo := by
  induction ps generalizing s with
  | nil => exact .inl ⟨rest, by rw [List.append_assoc]; exact h.symm⟩
  | cons part ps ih =>
      rw [render_cons] at h ⊢
      by_cases hpart : part.text (only known values) = part.text values
      · rw [hpart, ← List.append_assoc] at h
        rw [← List.append_assoc]
        have ih := ih (fun other hother => hbrace other (List.mem_cons_of_mem _ hother)) h
        exact ih.imp_right fun ⟨other, hother, hset⟩ =>
          ⟨other, List.mem_cons_of_mem _ hother, hset⟩
      · obtain ⟨other, rfl, hnot, hset⟩ := exists_reference_of_text_ne hpart
        have hother : '\x7d' ∉ opened other := by
          simpa [opened] using hbrace other List.mem_cons_self
        rw [text_only_of_notMem hnot] at h
        by_cases hs : '\x7d' ∈ s
        · obtain ⟨before, after, rfl, hbefore⟩ := List.eq_append_cons_of_mem hs
          rw [List.append_assoc, List.cons_append] at h
          obtain rfl := eq_of_append_brace hbefore hupTo h
          exact .inl ⟨after ++ (Part.text values (.reference other) ++ render values ps), by simp⟩
        · have hcut : s ++ opened other = upTo := by
            refine eq_of_append_brace (x := render (only known values) ps) (y := rest) ?_ hupTo ?_
            · simpa using ⟨hs, hother⟩
            · simpa [written] using h
          exact .inr ⟨other, List.mem_cons_self, hset, s, hcut⟩

/-- Where a reference is read within another as it is written, both end together. -/
theorem opened_suffix_of_written {name other before after s rest : List Char}
    (hother : '\x7d' ∉ other) (hname : '\x7d' ∉ name)
    (hpiece : written other = before ++ '$' :: after)
    (hstart : after ++ s = '\x7b' :: name ++ '\x7d' :: rest) :
    opened name <:+ opened other := by
  obtain rfl | ⟨upTo, last, rfl⟩ := List.eq_nil_or_concat after
  · cases (List.append_inj' hpiece rfl).2
  · rw [List.concat_eq_append, ← List.cons_append, ← List.append_assoc] at hpiece
    obtain ⟨hopened, hlast⟩ := List.append_inj' hpiece rfl
    cases hlast
    have hnot : '\x7d' ∉ opened other := by simpa [opened] using hother
    have hupTo : '\x7d' ∉ upTo := fun hmem => hnot <| by
      rw [hopened]
      exact List.mem_append_right _ (List.mem_cons_of_mem _ hmem)
    have hname' : '\x7d' ∉ '\x7b' :: name := by simpa using hname
    have hcut : upTo = '\x7b' :: name :=
      eq_of_append_brace hupTo hname' (by simpa using hstart)
    exact ⟨before, by rw [hopened, hcut]; rfl⟩

/-- A reference does not begin with the brace of another. -/
theorem suffix_of_opened_suffix_brace {name other : List Char}
    (h : opened name <:+ '\x7b' :: other) : opened name <:+ other := by
  obtain heq | h := List.suffix_cons_iff.mp h
  · cases heq
  · exact h

/-- Replacing a variable gives its references their value, and changes nothing else. -/
theorem substitute_render {name value : List Char} (hvalue : values name = some value)
    (hname : '\x7d' ∉ name) (hbrace : ∀ other, .reference other ∈ ps → '\x7d' ∉ other)
    (hfinal : ¬ written name <:+: render values ps)
    (hapart : ∀ other, .reference other ∈ ps → (values other).isSome →
      ¬ opened name <:+ other ∧ ¬ opened other <:+ name) :
    substitute name value (render (only known values) ps) =
      render (only (known ++ [name]) values) ps := by
  induction ps with
  | nil => exact Text.replace_nil ..
  | cons part ps ih =>
      have ih := ih (fun other hother => hbrace other (List.mem_cons_of_mem _ hother))
        (fun hwithin => hfinal (hwithin.trans (List.suffix_append _ _).isInfix))
        (fun other hother => hapart other (List.mem_cons_of_mem _ hother))
      rw [render_cons, render_cons, ← ih]
      by_cases hnew : part = .reference name ∧ name ∉ known
      · obtain ⟨rfl, hnot⟩ := hnew
        have hafter : Part.text (only (known ++ [name]) values) (.reference name) = value := by
          simp [Part.text, only, hvalue]
        rw [text_only_of_notMem hnot, hafter]
        exact Text.replace_start ..
      · rw [text_only_append hnew]
        refine Text.replace_append value fun before c after rest hpiece hstart => ?_
        obtain ⟨rfl, hstart⟩ := List.cons.inj hstart
        replace hstart : after ++ render (only known values) ps =
            '\x7b' :: name ++ '\x7d' :: rest := by simpa using hstart
        have hupTo : '\x7d' ∉ '\x7b' :: name := by simpa using hname
        by_cases hpart : part.text (only known values) = part.text values
        · obtain hfront | ⟨other, hother, hset, hsuffix⟩ := prefix_or_suffix_of_render
            (fun other hother => hbrace other (List.mem_cons_of_mem _ hother)) hupTo hstart
          · obtain ⟨tail, htail⟩ := hfront
            refine hfinal ⟨before, tail, ?_⟩
            rw [render_cons, ← hpart, hpiece]
            simp [written, opened, ← htail]
          · exact (hapart other (List.mem_cons_of_mem _ hother) hset).2
              (suffix_of_opened_suffix_brace hsuffix)
        · obtain ⟨other, rfl, hnot, hset⟩ := exists_reference_of_text_ne hpart
          rw [text_only_of_notMem hnot] at hpiece
          have hsuffix := opened_suffix_of_written (hbrace other List.mem_cons_self) hname
            hpiece hstart
          obtain heq | hsuffix := List.suffix_cons_iff.mp hsuffix
          · cases heq
            exact hnew ⟨rfl, hnot⟩
          · exact (hapart other List.mem_cons_self hset).1
              (suffix_of_opened_suffix_brace hsuffix)

end Replacing

/-! ## Settled texts -/

/-- Reading a text once is all there is to do. -/
structure Settled (env : Environment) (s : String) : Prop where
  /-- What is read holds no reference that the text has to a variable with a value. -/
  final : ∀ name ∈ references s.toList, (valueOf env name).isSome →
    ¬ written name <:+: (onePass env s).toList
  /-- No reference to a variable with a value begins within the name of another. -/
  apart : ∀ name ∈ references s.toList, (valueOf env name).isSome →
    ∀ other ∈ references s.toList, (valueOf env other).isSome → ¬ opened name <:+ other

/-! ## Ordinary values -/

section Ordinary

variable {values : List Char → Option (List Char)}

/-- Without a closing brace there is nothing to be read otherwise. -/
theorem render_of_notMem_brace {s : List Char} (h : '\x7d' ∉ s) :
    render values (parts s) = s := by
  fun_induction parts s with
  | case1 => rfl
  | case2 rest name left hname ih =>
      obtain ⟨-, -, rfl⟩ := named?_eq_some_iff.mp hname
      simp at h
  | case3 rest hname ih =>
      rw [render_cons, ih (by simpa using h)]
      rfl
  | case4 c rest hrest ih =>
      rw [render_cons, ih fun hmem => h (List.mem_cons_of_mem _ hmem)]
      rfl

/-- Where no name in braces stands, none is read either. -/
theorem not_prefix_of_named?_eq_none {s name : List Char} (h : named? s = none) (hne : name ≠ [])
    (hname : '\x7d' ∉ name) : ¬ name ++ ['\x7d'] <+: render values (parts s) := by
  rintro ⟨left, hleft⟩
  by_cases hs : '\x7d' ∈ s
  · obtain ⟨before, after, rfl, hbefore⟩ := List.eq_append_cons_of_mem hs
    cases before with
    | nil =>
        -- The brace is the first character, and a name would have to stand in front of it.
        rw [List.nil_append, parts_plain (by simp), render_cons] at hleft
        cases name with
        | nil => exact hne rfl
        | cons c name =>
            cases (List.cons.inj hleft).1
            exact hname List.mem_cons_self
    | cons c before =>
        cases h.symm.trans (named?_eq_some_iff.mpr ⟨List.cons_ne_nil _ _, hbefore, rfl⟩)
  · rw [render_of_notMem_brace hs] at hleft
    exact hs (hleft ▸ by simp)

/-- A reference does not begin in a text without the mark. -/
theorem infix_of_infix_append {name s t : List Char} (hs : '$' ∉ s)
    (h : written name <:+: s ++ t) : written name <:+: t := by
  induction s with
  | nil => exact h
  | cons c s ih =>
      obtain ⟨rest, hrest⟩ | h := List.infix_cons_iff.mp h
      · cases (List.cons.inj hrest).1
        exact absurd List.mem_cons_self hs
      · exact ih (fun hmem => hs (List.mem_cons_of_mem _ hmem)) h

/-- A part that brings in no start of a reference: a name without a dollar sign, and a value that
has none either and is neither empty nor begins with a brace. -/
def Part.Ordinary (values : List Char → Option (List Char)) : Part → Prop
  | .plain _ => True
  | .reference name => '$' ∉ name ∧ ∀ value, values name = some value →
      '$' ∉ value ∧ ∃ c cs, value = c :: cs ∧ c ≠ '\x7b'

/-- Ordinary parts bring no brace to the front. -/
theorem exists_brace_of_prefix {s t : List Char}
    (hordinary : ∀ part ∈ parts s, part.Ordinary values)
    (h : '\x7b' :: t <+: render values (parts s)) : ∃ rest, s = '\x7b' :: rest := by
  obtain ⟨left, hleft⟩ := h
  revert hordinary hleft
  fun_cases parts s with
  | case1 =>
      intro _ hleft
      cases hleft
  | case2 rest name left' hname =>
      intro hordinary hleft
      rw [render_cons, Part.text] at hleft
      cases hvalue : values name with
      | none =>
          rw [hvalue] at hleft
          cases (List.cons.inj hleft).1
      | some value =>
          obtain ⟨-, c, cs, rfl, hc⟩ := (hordinary _ List.mem_cons_self).2 value hvalue
          rw [hvalue] at hleft
          exact absurd (List.cons.inj hleft).1.symm hc
  | case3 rest hname =>
      intro _ hleft
      cases (List.cons.inj hleft).1
  | case4 c rest hrest =>
      intro _ hleft
      cases (List.cons.inj hleft).1
      exact ⟨rest, rfl⟩

/-- In ordinary parts no reference to a variable with a value is made up. -/
theorem not_infix_of_ordinary {s name : List Char} (hset : (values name).isSome)
    (hne : name ≠ []) (hbrace : '\x7d' ∉ name)
    (hordinary : ∀ part ∈ parts s, part.Ordinary values) :
    ¬ written name <:+: render values (parts s) := by
  revert hordinary
  fun_induction parts s with
  | case1 =>
      intro _ h
      cases List.infix_nil.mp h
  | case2 rest other left hother ih =>
      intro hordinary h
      obtain ⟨hdollar, hvalues⟩ := hordinary _ List.mem_cons_self
      have ih := ih fun part hpart => hordinary part (List.mem_cons_of_mem _ hpart)
      rw [render_cons, Part.text] at h
      cases hvalue : values other with
      | some value =>
          rw [hvalue] at h
          exact ih (infix_of_infix_append (hvalues value hvalue).1 h)
      | none =>
          rw [hvalue] at h
          obtain ⟨after, hafter⟩ | h := List.infix_cons_iff.mp h
          · have hopened : opened name = opened other := by
              refine eq_of_append_brace (x := after) (y := render values (parts left)) ?_ ?_ ?_
              · simpa [opened] using hbrace
              · simpa [opened] using (named?_eq_some_iff.mp hother).2.1
              · simpa [written, opened] using hafter
            cases hopened
            rw [hvalue] at hset
            cases hset
          · refine ih (infix_of_infix_append (s := '\x7b' :: other ++ ['\x7d']) ?_ h)
            simpa using hdollar
  | case3 rest hnone ih =>
      intro hordinary h
      have ih := ih fun part hpart => hordinary part (List.mem_cons_of_mem _ hpart)
      replace h : written name <:+: '$' :: render values (parts ('\x7b' :: rest)) := h
      obtain ⟨after, hafter⟩ | h := List.infix_cons_iff.mp h
      · rw [parts_plain (by decide), render_cons] at hafter
        have hfront : name ++ ['\x7d'] <+: render values (parts rest) :=
          ⟨after, by simpa [written, opened, Part.text] using hafter⟩
        exact not_prefix_of_named?_eq_none hnone hne hbrace hfront
      · exact ih h
  | case4 c rest hrest ih =>
      intro hordinary h
      have hordinary part hpart := hordinary part (List.mem_cons_of_mem _ hpart)
      replace h : written name <:+: c :: render values (parts rest) := h
      obtain ⟨after, hafter⟩ | h := List.infix_cons_iff.mp h
      · obtain ⟨hc, hafter⟩ := List.cons.inj hafter
        obtain ⟨left, rfl⟩ := exists_brace_of_prefix hordinary ⟨after, hafter⟩
        exact hrest left hc.symm rfl
      · exact ih hordinary h

/-- Texts are settled where names hold no dollar sign, and values neither hold one nor are empty
or begin with a brace. -/
theorem settled_of_ordinary {env : Environment} {s : String}
    (h : ∀ name ∈ references s.toList, (Part.reference name).Ordinary (valueOf env)) :
    Settled env s where
  final name hname hset := by
    have hordinary : ∀ part ∈ parts s.toList, part.Ordinary (valueOf env)
      | .plain _, _ => trivial
      | .reference other, hother => h other (mem_references_iff.mpr hother)
    obtain ⟨hne, hbrace⟩ := named_of_reference (mem_references_iff.mp hname)
    rw [onePass, String.toList_ofList]
    exact not_infix_of_ordinary hset hne hbrace hordinary
  apart name _ _ other hother _ hsuffix := (h other hother).1 (hsuffix.subset List.mem_cons_self)

end Ordinary

/-! ## Expanding -/

/-- It does not matter whether a variable without a value is among the known ones. -/
theorem only_append_of_none {values : List Char → Option (List Char)} {name : List Char}
    (h : values name = none) (known : List (List Char)) :
    only (known ++ [name]) values = only known values := by
  funext other
  by_cases hother : other = name
  · subst hother
    simp [only, h]
  · simp [only, hother]

/-- It is enough to know the variables that are referred to. -/
theorem render_only {values : List Char → Option (List Char)} {known : List (List Char)}
    {ps : List Part} (h : ∀ name, .reference name ∈ ps → name ∈ known) :
    render (only known values) ps = render values ps := by
  rw [render, render, List.flatMap_def, List.flatMap_def]
  refine congrArg List.flatten (List.map_congr_left fun part hpart => ?_)
  cases part with
  | plain c => rfl
  | reference name => simp [Part.text, only, h name hpart]

/-- One variable after the other becomes known. -/
theorem foldl_substitute_render (env : Environment) (ps : List Part) (names : List (List Char))
    (hstep : ∀ name ∈ names, ∀ value, valueOf env name = some value → ∀ known,
      substitute name value (render (only known (valueOf env)) ps) =
        render (only (known ++ [name]) (valueOf env)) ps) (known : List (List Char)) :
    names.foldl (fun cs name =>
        match env.get? (String.ofList name) with
        | some value => substitute name value.toList cs
        | none => cs) (render (only known (valueOf env)) ps) =
      render (only (known ++ names) (valueOf env)) ps := by
  induction names generalizing known with
  | nil => rw [List.foldl_nil, List.append_nil]
  | cons name names ih =>
      have ih := ih (fun other hother => hstep other (List.mem_cons_of_mem _ hother))
        (known ++ [name])
      rw [List.append_assoc, List.singleton_append] at ih
      rw [List.foldl_cons, ← ih]
      cases hvalue : env.get? (String.ofList name) with
      | some value =>
          rw [← hstep name List.mem_cons_self value.toList (by rw [valueOf, hvalue]; rfl)]
      | none => rw [only_append_of_none (by rw [valueOf, hvalue]; rfl)]

/-- Where reading a text once leaves nothing to be replaced, expanding the text is reading it
once. -/
theorem expand_eq_onePass_of_settled {env : Environment} {s : String} (h : Settled env s) :
    expand env s = onePass env s := by
  have hfold := foldl_substitute_render env (parts s.toList) (references s.toList)
    (fun name hname value hvalue known => ?_) []
  · rw [List.nil_append, render_only fun name => mem_references_iff.mpr,
      show only [] (valueOf env) = fun _ => none from rfl, written_parts] at hfold
    exact congrArg String.ofList hfold
  · have hset : (valueOf env name).isSome := by rw [hvalue]; rfl
    refine substitute_render hvalue (named_of_reference (mem_references_iff.mp hname)).2
      (fun other hother => (named_of_reference hother).2) ?_ fun other hother hsome =>
        ⟨h.apart name hname hset other (mem_references_iff.mpr hother) hsome,
          h.apart other (mem_references_iff.mpr hother) hsome name hname hset⟩
    have hfinal := h.final name hname hset
    rwa [onePass, String.toList_ofList] at hfinal

/-- A text with two references to a variable and one to another. -/
def connection : String := "dialect = \"$\x7bDB\x7d\" # $\x7bDB\x7d at $\x7bHOST\x7d"

/-- A value for the first of them alone. -/
def database : Environment := Environment.empty.set "DB" "mssql"

/-- Both references to a variable are read as its value, and one to a variable without a value
stays. -/
theorem expand_connection :
    Settled database connection ∧ expand database connection = onePass database connection ∧
      onePass database connection = "dialect = \"mssql\" # mssql at $\x7bHOST\x7d" := by
  have hreferences : references connection.toList =
      ["DB".toList, "DB".toList, "HOST".toList] := by decide +kernel
  have hdb : valueOf database "DB".toList = some "mssql".toList := by decide +kernel
  have hhost : valueOf database "HOST".toList = none := by decide +kernel
  have hsettled : Settled database connection := by
    refine settled_of_ordinary fun name hname => ?_
    rw [hreferences] at hname
    simp only [List.mem_cons, List.not_mem_nil, or_false, or_self_left] at hname
    obtain rfl | rfl := hname
    · refine ⟨by decide, fun value hvalue => ?_⟩
      cases hdb.symm.trans hvalue
      exact ⟨by decide, _, _, rfl, by decide⟩
    · refine ⟨by decide, fun value hvalue => ?_⟩
      cases hhost.symm.trans hvalue
  exact ⟨hsettled, expand_eq_onePass_of_settled hsettled, by decide +kernel⟩

/-- A variable whose value refers to another, with its value. -/
def nested : Environment :=
  (Environment.empty.set "OUTER" "$\x7bINNER\x7d").set "INNER" "x"

/-- A text with references to both. -/
def outerInner : String := "dialect = \"$\x7bOUTER\x7d$\x7bINNER\x7d\""

/-- What a value has brought in is replaced where a later reference names the same variable. -/
theorem expand_nested_ne_onePass : expand nested outerInner ≠ onePass nested outerInner := by
  have hexpand : expand nested outerInner = "dialect = \"xx\"" := by decide +kernel
  have honePass : onePass nested outerInner = "dialect = \"$\x7bINNER\x7dx\"" := by
    decide +kernel
  rw [hexpand, honePass]
  decide

end Sift.Expansion
