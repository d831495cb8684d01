import DiagramDoc.Proofs.Config.Templates

/-! # Dollar signs outside of braces

Only references in braces are meant to be filled in. A value without such a reference is indeed left
alone, but as soon as it has one, a dollar sign in front of a name or of another dollar sign has a
meaning anywhere in it. So a value is filled as it is meant to be, in every environment, exactly if
it has no reference in braces or none of its other dollar signs stands in front of either.
-/

namespace DiagramDoc

open Text

namespace TemplatePart

variable {c : Char} {cs inner rest out : List Char} {environment : Environment}

/-! ### Groups -/

/-- At the start of `cs` stands the group with the text `inner` in its braces. -/
structure StartsWithGroup (cs inner rest : List Char) : Prop where
  text : cs = '$' :: '\x7b' :: (inner ++ '\x7d' :: rest)
  closed : '\x7d' ∉ inner

/-- The text is filled in the documented way: each group is replaced, from left to right, and every
other character is kept. -/
inductive FillsGroups (environment : Environment) : List Char → List Char → Prop
  | nil : FillsGroups environment [] []
  | group {cs inner rest filled out : List Char} : StartsWithGroup cs inner rest →
      (ofBraces inner).fill environment = .ok filled → FillsGroups environment rest out →
      FillsGroups environment cs (filled ++ out)
  | kept {c : Char} {rest out : List Char} :
      (∀ inner behind, ¬ StartsWithGroup (c :: rest) inner behind) →
      FillsGroups environment rest out → FillsGroups environment (c :: rest) (c :: out)

/-- Of the dollar signs outside of groups none stands in front of a name or another dollar sign. -/
inductive DollarsStandAlone : List Char → Prop
  | nil : DollarsStandAlone []
  | group {cs inner rest : List Char} : StartsWithGroup cs inner rest →
      DollarsStandAlone rest → DollarsStandAlone cs
  | kept {c : Char} {rest : List Char} :
      (∀ inner behind, ¬ StartsWithGroup (c :: rest) inner behind) →
      (c = '$' → ∀ d ∈ rest.head?, d ≠ '$' ∧ inName d = false) →
      DollarsStandAlone rest → DollarsStandAlone (c :: rest)

theorem StartsWithGroup.unique {inner' rest' : List Char} (h : StartsWithGroup cs inner rest)
    (h' : StartsWithGroup cs inner' rest') : inner = inner' ∧ rest = rest' := by
  have htext : inner ++ '\x7d' :: rest = inner' ++ '\x7d' :: rest' := by
    simpa using h.text.symm.trans h'.text
  have hinner := congrArg (List.takeWhile (· != '\x7d')) htext
  rw [takeWhile_append (bne_brace_of_notMem h.closed) stops_brace,
    takeWhile_append (bne_brace_of_notMem h'.closed) stops_brace] at hinner
  subst hinner
  simpa using htext

theorem StartsWithGroup.suffix (h : StartsWithGroup cs inner rest) : rest <:+ cs := by
  rw [h.text]
  exact ⟨'$' :: '\x7b' :: (inner ++ ['\x7d']), by simp⟩

theorem infix_braces (inner rest : List Char) : inner <:+: '\x7b' :: (inner ++ '\x7d' :: rest) :=
  List.infix_cons (List.prefix_append _ _).isInfix

theorem StartsWithGroup.length_lt (h : StartsWithGroup cs inner rest) :
    rest.length < cs.length := by
  rw [h.text]
  simp only [List.length_cons, List.length_append]
  omega

/-- Every text is empty, or starts with a group, or with a character that is kept. -/
@[elab_as_elim]
theorem groups_induction {motive : List Char → Prop} (nil : motive [])
    (group : ∀ cs inner rest, StartsWithGroup cs inner rest → motive rest → motive cs)
    (kept : ∀ c rest, (∀ inner behind, ¬ StartsWithGroup (c :: rest) inner behind) →
      motive rest → motive (c :: rest)) (cs : List Char) : motive cs := by
  induction hn : cs.length using Nat.strong_induction_on generalizing cs with
  | h n ih =>
    by_cases hgroup : ∃ inner rest, StartsWithGroup cs inner rest
    · obtain ⟨inner, rest, hgroup⟩ := hgroup
      exact group cs inner rest hgroup (ih _ (hn ▸ hgroup.length_lt) rest rfl)
    · cases cs with
      | nil => exact nil
      | cons c rest =>
        refine kept c rest (fun inner behind h => hgroup ⟨inner, behind, h⟩) (ih _ ?_ rest rfl)
        rw [← hn]
        exact Nat.lt_succ_self _

theorem not_startsWithGroup_nil : ¬ StartsWithGroup [] inner rest := fun h => by cases h.text

theorem not_startsWithGroup_cons (hc : c ≠ '$') : ¬ StartsWithGroup (c :: cs) inner rest :=
  fun h => hc (List.cons.inj h.text).1

theorem not_startsWithGroup_dollar {d : Char} (hd : d ≠ '\x7b') :
    ¬ StartsWithGroup (c :: d :: cs) inner rest :=
  fun h => hd (List.cons.inj (List.cons.inj h.text).2).1

/-! ### Filling groups -/

theorem fillsGroups_nil_iff : FillsGroups environment [] out ↔ out = [] := by
  constructor
  · intro h
    cases h with
    | nil => rfl
    | group hgroup => exact absurd hgroup not_startsWithGroup_nil
  · rintro rfl
    exact .nil

theorem StartsWithGroup.fillsGroups_iff (hgroup : StartsWithGroup cs inner rest) :
    FillsGroups environment cs out ↔ ∃ filled more, (ofBraces inner).fill environment = .ok filled ∧
      FillsGroups environment rest more ∧ out = filled ++ more := by
  constructor
  · intro h
    cases h with
    | nil => exact absurd hgroup not_startsWithGroup_nil
    | group hgroup' hfill hrest =>
      obtain ⟨rfl, rfl⟩ := hgroup.unique hgroup'
      exact ⟨_, _, hfill, hrest, rfl⟩
    | kept hnone => exact absurd hgroup (hnone inner rest)
  · rintro ⟨filled, more, hfill, hrest, rfl⟩
    exact .group hgroup hfill hrest

theorem fillsGroups_cons_iff
    (hnone : ∀ inner behind, ¬ StartsWithGroup (c :: rest) inner behind) :
    FillsGroups environment (c :: rest) out ↔
      ∃ more, FillsGroups environment rest more ∧ out = c :: more := by
  constructor
  · intro h
    cases h with
    | group hgroup => exact absurd hgroup (hnone _ _)
    | kept _ hrest => exact ⟨_, hrest, rfl⟩
  · rintro ⟨more, hrest, rfl⟩
    exact .kept hnone hrest

theorem fillAll_cons_eq_ok_iff {part : TemplatePart} {parts : List TemplatePart} :
    fillAll environment (part :: parts) = .ok out ↔ ∃ filled more,
      part.fill environment = .ok filled ∧ fillAll environment parts = .ok more ∧
        out = filled ++ more := by
  rw [fillAll]
  cases part.fill environment with
  | error name => simp
  | ok filled =>
    cases fillAll environment parts with
    | error name => simp [Except.map]
    | ok more => simp [Except.map, eq_comm]

/-! ### Values that are filled as they are meant to be -/

theorem StartsWithGroup.read_eq (h : StartsWithGroup cs inner rest) :
    read cs = ofBraces inner :: read rest := by
  rw [h.text, read_group h.closed]

theorem read_dollars : read ('$' :: '$' :: rest) = .literal '$' :: read rest := by rw [read]

theorem read_name (hc : inName c = true) :
    read ('$' :: c :: rest) = .reference (String.ofList (c :: rest.takeWhile inName)) none ::
      read (rest.dropWhile inName) := by
  have hdollar : c ≠ '$' := fun h => absurd (h ▸ hc) (by decide)
  have hbrace : c ≠ '\x7b' := fun h => absurd (h ▸ hc) (by decide)
  rw [read, if_pos hc] <;> assumption

theorem exists_startsWithGroup (h : '\x7d' ∈ cs) :
    ∃ inner rest, StartsWithGroup ('$' :: '\x7b' :: cs) inner rest := by
  obtain ⟨inner, rest, rfl, hclosed⟩ := List.eq_append_cons_of_mem h
  exact ⟨inner, rest, rfl, hclosed⟩

/-- A character that is kept is read as itself, unless it is a dollar sign in front of a name or
another dollar sign. -/
theorem read_kept (hnone : ∀ inner behind, ¬ StartsWithGroup (c :: rest) inner behind)
    (halone : c = '$' → ∀ d ∈ rest.head?, d ≠ '$' ∧ inName d = false) :
    read (c :: rest) = .literal c :: read rest := by
  by_cases hc : c = '$'
  · subst hc
    cases rest with
    | nil => simp [read]
    | cons d rest =>
      obtain ⟨hdollar, hname⟩ := halone rfl d rfl
      by_cases hbrace : d = '\x7b'
      · subst hbrace
        have hopen : ¬ rest.contains '\x7d' = true := by
          rw [List.contains_iff_mem]
          intro hmem
          obtain ⟨inner, behind, hgroup⟩ := exists_startsWithGroup hmem
          exact hnone inner behind hgroup
        rw [read, if_neg hopen, read_literal (by decide)]
      · rw [read, if_neg (by simp [hname])] <;> assumption
  · exact read_literal hc

/-- If the dollar signs outside of groups stand alone, a template is filled as it is meant to be. -/
theorem DollarsStandAlone.fillAll_read_iff (h : DollarsStandAlone cs) :
    fillAll environment (read cs) = .ok out ↔ FillsGroups environment cs out := by
  induction h generalizing out with
  | nil =>
    rw [read, fillsGroups_nil_iff, fillAll, Except.ok.injEq, eq_comm]
  | group hgroup _ ih =>
    rw [hgroup.read_eq, fillAll_cons_eq_ok_iff, hgroup.fillsGroups_iff]
    simp only [ih]
  | kept hnone halone _ ih =>
    rw [read_kept hnone halone, fillAll_cons_eq_ok_iff, fillsGroups_cons_iff hnone]
    simp [fill, ih]

theorem fillsGroups_iff_of_no_opening (h : ¬ ['$', '\x7b'] <:+: cs) :
    FillsGroups environment cs out ↔ out = cs := by
  induction cs generalizing out with
  | nil => exact fillsGroups_nil_iff
  | cons c cs ih =>
    rw [List.infix_cons_iff, not_or] at h
    have hnone (inner behind : List Char) : ¬ StartsWithGroup (c :: cs) inner behind := by
      intro hgroup
      rw [hgroup.text] at h
      exact h.1 ⟨_, rfl⟩
    rw [fillsGroups_cons_iff hnone]
    simp [ih h.2]

/-! ### Dollar signs with a meaning of their own

In an environment where every name in a text has the value zero, the references of the text become
zeros. If a dollar sign was dropped by the one reading and kept by the other, the second stays
behind by a run of dollar signs, which the first has to match and cannot. -/

theorem isPrefix_of_cutFallback {name fallback : List Char}
    (h : cutFallback cs = some (name, fallback)) : name <+: cs := by
  fun_induction cutFallback cs generalizing name with
  | case1 => cases h
  | case2 rest => cases h; exact List.nil_prefix
  | case3 c rest _ ih =>
    obtain ⟨⟨before, after⟩, hcut, heq⟩ := Option.map_eq_some_iff.1 h
    cases heq
    exact List.cons_prefix_cons.2 ⟨rfl, ih hcut⟩

theorem exists_ofBraces (inner : List Char) : ∃ name fallback,
    ofBraces inner = .reference (String.ofList name) fallback ∧ name <:+: inner := by
  rw [ofBraces]
  split
  · next hcut => exact ⟨_, _, rfl, (isPrefix_of_cutFallback hcut).isInfix⟩
  · exact ⟨_, _, rfl, List.infix_rfl⟩

/-- A text is read from the start as a doubled dollar sign, a reference or a character. -/
@[elab_as_elim]
theorem read_induction {motive : List Char → Prop} (nil : motive [])
    (dollars : ∀ rest, motive rest → motive ('$' :: '$' :: rest))
    (reference : ∀ cs name fallback rest,
      read ('$' :: cs) = .reference (String.ofList name) fallback :: read rest →
        name <:+: cs → rest <:+ cs → motive rest → motive ('$' :: cs))
    (literal : ∀ c rest, read (c :: rest) = .literal c :: read rest → motive rest →
      motive (c :: rest)) (cs : List Char) : motive cs := by
  induction hn : cs.length using Nat.strong_induction_on generalizing cs with
  | h n ih =>
    subst hn
    by_cases hgroup : ∃ inner rest, StartsWithGroup cs inner rest
    · obtain ⟨inner, rest, hgroup⟩ := hgroup
      obtain ⟨name, fallback, hbraces, hname⟩ := exists_ofBraces inner
      have hread := hgroup.read_eq
      have hlength := hgroup.length_lt
      have hsuffix : rest <:+ '\x7b' :: (inner ++ '\x7d' :: rest) :=
        ⟨'\x7b' :: (inner ++ ['\x7d']), by simp⟩
      rw [hbraces] at hread
      rw [hgroup.text] at hread ⊢
      exact reference _ name fallback rest hread (hname.trans (infix_braces inner rest)) hsuffix
        (ih _ hlength rest rfl)
    · cases cs with
      | nil => exact nil
      | cons c rest =>
        by_cases halone : c = '$' → ∀ d ∈ rest.head?, d ≠ '$' ∧ inName d = false
        · exact literal c rest (read_kept (fun inner behind h => hgroup ⟨inner, behind, h⟩) halone)
            (ih _ (Nat.lt_succ_self _) rest rfl)
        · obtain ⟨rfl, hhead⟩ := Classical.not_imp.1 halone
          obtain ⟨d, hd, hmeaning⟩ : ∃ d ∈ rest.head?, ¬ (d ≠ '$' ∧ inName d = false) := by
            simpa using hhead
          obtain ⟨rest, rfl⟩ := List.head?_eq_some_iff.1 hd
          by_cases hdollar : d = '$'
          · subst hdollar
            exact dollars rest (ih _ (by simp) rest rfl)
          · have hname : inName d = true := by
              by_contra h
              exact hmeaning ⟨hdollar, by simpa using h⟩
            have hsuffix := List.dropWhile_suffix (l := rest) inName
            refine reference (d :: rest) _ none _ (read_name hname) ?_
              (hsuffix.trans (List.suffix_cons d rest)) (ih _ ?_ _ rfl)
            · exact (List.cons_prefix_cons.2 ⟨rfl, List.takeWhile_prefix inName⟩).isInfix
            · have := hsuffix.length_le
              simp only [List.length_cons]
              omega

/-- Every name that can be in `cs` has the value zero. -/
def SetsAll (environment : Environment) (cs : List Char) : Prop :=
  ∀ name, name <:+: cs → environment.value? (String.ofList name) = some "0"

theorem exists_setsAll (cs : List Char) : ∃ environment, SetsAll environment cs := by
  refine ⟨cs.sublists.map fun name => (String.ofList name, "0"), fun name hname => ?_⟩
  have hmem : (String.ofList name, "0") ∈ cs.sublists.map fun name => (String.ofList name, "0") :=
    List.mem_map.2 ⟨name, List.mem_sublists.2 hname.sublist, rfl⟩
  have hsome : ((cs.sublists.map fun name => (String.ofList name, "0")).find?
      (·.1 = String.ofList name)).isSome = true :=
    List.find?_isSome.2 ⟨_, hmem, decide_eq_true rfl⟩
  obtain ⟨entry, hentry⟩ := Option.isSome_iff_exists.1 hsome
  obtain ⟨other, -, rfl⟩ := List.mem_map.1 (List.mem_of_find?_eq_some hentry)
  rw [Environment.value?, hentry]
  rfl

theorem SetsAll.mono {cs' : List Char} (h : SetsAll environment cs) (hinside : cs' <:+: cs) :
    SetsAll environment cs' :=
  fun name hname => h name (hname.trans hinside)

theorem SetsAll.tail (h : SetsAll environment (c :: cs)) : SetsAll environment cs :=
  h.mono (List.suffix_cons c cs).isInfix

theorem SetsAll.fill_reference {name : List Char} {fallback : Option String}
    (h : SetsAll environment cs) (hname : name <:+: cs) :
    (reference (String.ofList name) fallback).fill environment = .ok ['0'] := by
  simp only [fill, h name hname]
  rfl

theorem SetsAll.fill_ofBraces (h : SetsAll environment inner) :
    (ofBraces inner).fill environment = .ok ['0'] := by
  obtain ⟨name, fallback, hbraces, hname⟩ := exists_ofBraces inner
  rw [hbraces, h.fill_reference hname]

theorem SetsAll.exists_fillAll (h : SetsAll environment cs) :
    ∃ out, fillAll environment (read cs) = .ok out := by
  induction cs using read_induction with
  | nil => exact ⟨[], by rw [read, fillAll]⟩
  | dollars rest ih =>
    obtain ⟨more, hmore⟩ := ih h.tail.tail
    rw [read_dollars]
    exact ⟨_, fillAll_cons_eq_ok_iff.2 ⟨_, _, rfl, hmore, rfl⟩⟩
  | reference cs name fallback rest hread hname hrest ih =>
    obtain ⟨more, hmore⟩ := ih (h.tail.mono hrest.isInfix)
    rw [hread]
    exact ⟨_, fillAll_cons_eq_ok_iff.2 ⟨_, _, h.tail.fill_reference hname, hmore, rfl⟩⟩
  | literal c rest hread ih =>
    obtain ⟨more, hmore⟩ := ih h.tail
    rw [hread]
    exact ⟨_, fillAll_cons_eq_ok_iff.2 ⟨_, _, rfl, hmore, rfl⟩⟩

/-- A run of dollar signs loses its first, or the last is the start of a group. -/
theorem FillsGroups.of_dollars {k : Nat} (h : SetsAll environment cs)
    (hfills : FillsGroups environment (List.replicate (k + 1) '$' ++ cs) out) :
    (∃ more, out = '$' :: more ∧ FillsGroups environment (List.replicate k '$' ++ cs) more) ∨
      ∃ rest more, cs = '\x7b' :: rest ∧ out = '0' :: more := by
  rw [List.replicate_succ, List.cons_append] at hfills
  by_cases hgroup : ∃ inner rest, StartsWithGroup ('$' :: (List.replicate k '$' ++ cs)) inner rest
  · right
    obtain ⟨inner, rest, hgroup⟩ := hgroup
    cases k with
    | succ k => exact absurd hgroup (not_startsWithGroup_dollar (by decide))
    | zero =>
      obtain rfl : cs = '\x7b' :: (inner ++ '\x7d' :: rest) := (List.cons.inj hgroup.text).2
      obtain ⟨filled, more, hfill, -, rfl⟩ := hgroup.fillsGroups_iff.1 hfills
      rw [(h.mono (infix_braces inner rest)).fill_ofBraces] at hfill
      cases hfill
      exact ⟨_, more, rfl, rfl⟩
  · left
    obtain ⟨more, hmore, rfl⟩ :=
      (fillsGroups_cons_iff fun inner rest h => hgroup ⟨inner, rest, h⟩).1 hfills
    exact ⟨more, rfl, hmore⟩

theorem replicate_append_dollar (k : Nat) (rest : List Char) :
    List.replicate k '$' ++ '$' :: rest = List.replicate (k + 1) '$' ++ rest := by
  rw [List.replicate_succ', List.append_assoc, List.singleton_append]

/-- What is read of a text is never what is to be filled in behind further dollar signs. -/
theorem SetsAll.not_fillsGroups {k : Nat} (h : SetsAll environment cs)
    (hread : fillAll environment (read cs) = .ok out) :
    ¬ FillsGroups environment (List.replicate (k + 1) '$' ++ cs) out := by
  intro hfills
  induction cs using read_induction generalizing k out with
  | nil =>
    rw [read, fillAll] at hread
    cases hread
    obtain ⟨more, hout, -⟩ | ⟨rest, more, hcs, -⟩ := hfills.of_dollars h
    · cases hout
    · cases hcs
  | dollars rest ih =>
    rw [read_dollars, fillAll_cons_eq_ok_iff] at hread
    obtain ⟨_, more, hfill, hmore, rfl⟩ := hread
    cases hfill
    obtain ⟨more', hout, hrest⟩ | ⟨_, _, hcs, -⟩ := hfills.of_dollars h
    · cases hout
      rw [replicate_append_dollar, replicate_append_dollar] at hrest
      exact ih h.tail.tail hmore hrest
    · cases hcs
  | reference cs name fallback rest hread' hname hrest ih =>
    rw [hread', fillAll_cons_eq_ok_iff] at hread
    obtain ⟨_, more, hfill, -, rfl⟩ := hread
    rw [h.tail.fill_reference hname] at hfill
    cases hfill
    obtain ⟨more', hout, -⟩ | ⟨_, _, hcs, -⟩ := hfills.of_dollars h
    · cases hout
    · cases hcs
  | literal c rest hread' ih =>
    rw [hread', fillAll_cons_eq_ok_iff] at hread
    obtain ⟨_, more, hfill, hmore, rfl⟩ := hread
    cases hfill
    obtain ⟨more', hout, hrest⟩ | ⟨_, _, hcs, hout⟩ := hfills.of_dollars h
    · cases hout
      rw [replicate_append_dollar] at hrest
      exact ih h.tail hmore hrest
    · cases hcs
      cases hout

/-- A dollar sign that is read and kept as itself stands alone. -/
theorem SetsAll.stands_alone (h : SetsAll environment ('$' :: rest))
    (hread : fillAll environment (read ('$' :: rest)) = .ok ('$' :: out))
    (hfills : FillsGroups environment rest out) : ∀ d ∈ rest.head?, d ≠ '$' ∧ inName d = false := by
  intro d hd
  obtain ⟨rest, rfl⟩ := List.head?_eq_some_iff.1 hd
  constructor
  · rintro rfl
    rw [read_dollars, fillAll_cons_eq_ok_iff] at hread
    obtain ⟨_, more, hfill, hmore, hout⟩ := hread
    cases hfill
    obtain rfl := (List.cons.inj hout).2
    exact h.tail.tail.not_fillsGroups (k := 0) hmore hfills
  · by_contra hname
    rw [read_name (by simpa using hname), fillAll_cons_eq_ok_iff] at hread
    obtain ⟨_, more, hfill, -, hout⟩ := hread
    have hword : d :: rest.takeWhile inName <:+: d :: rest :=
      (List.cons_prefix_cons.2 ⟨rfl, List.takeWhile_prefix inName⟩).isInfix
    rw [h.tail.fill_reference hword] at hfill
    cases hfill
    cases hout

/-- If a text is filled as it is meant to be where all names are set, its dollar signs stand
alone. -/
theorem SetsAll.dollarsStandAlone (h : SetsAll environment cs)
    (hread : fillAll environment (read cs) = .ok out) (hfills : FillsGroups environment cs out) :
    DollarsStandAlone cs := by
  induction cs using groups_induction generalizing out with
  | nil => exact .nil
  | group cs inner rest hgroup ih =>
    rw [hgroup.read_eq, fillAll_cons_eq_ok_iff] at hread
    obtain ⟨filled, more, hfill, hmore, rfl⟩ := hread
    obtain ⟨filled', more', hfill', hmore', hout⟩ := hgroup.fillsGroups_iff.1 hfills
    cases hfill.symm.trans hfill'
    obtain rfl := List.append_cancel_left hout
    exact .group hgroup (ih (h.mono hgroup.suffix.isInfix) hmore hmore')
  | kept c rest hnone ih =>
    obtain ⟨more, hmore, rfl⟩ := (fillsGroups_cons_iff hnone).1 hfills
    have halone : c = '$' → ∀ d ∈ rest.head?, d ≠ '$' ∧ inName d = false := by
      rintro rfl
      exact h.stands_alone hread hmore
    rw [read_kept hnone halone, fillAll_cons_eq_ok_iff] at hread
    obtain ⟨_, more', hfill, hmore', hout⟩ := hread
    cases hfill
    obtain rfl := (List.cons.inj hout).2
    exact .kept hnone halone (ih h.tail hmore' hmore)

end TemplatePart

open TemplatePart

theorem expandField_eq_ok_iff {environment : Environment} {field value out : String} :
    expandField environment field value = .ok out ↔ expandValue environment value = .ok out := by
  rw [expandField]
  cases expandValue environment value <;> simp [Except.mapError]

theorem expandValue_eq_ok_iff {environment : Environment} {value out : String}
    (h : ['$', '\x7b'] <:+: value.toList) : expandValue environment value = .ok out ↔
      fillAll environment (read value.toList) = .ok out.toList := by
  rw [expandValue_eq environment (.inl h)]
  cases fillAll environment (read value.toList) with
  | error name => simp [Except.map]
  | ok cs =>
    simp only [Except.map, Except.ok.injEq, ← String.toList_inj, String.toList_ofList]

/-- **Only references in braces are filled in, provided that no other dollar sign has a meaning.**
A value is filled in the documented way in every environment, so that no name without braces is
replaced or makes it fail, exactly if it has no opening of a reference in braces at all or its
dollar signs outside of them stand neither in front of a name nor of another dollar sign. -/
theorem expandField_fillsGroups_iff (value : String) :
    (∀ (environment : Environment) (field out : String),
        expandField environment field value = .ok out ↔
          FillsGroups environment value.toList out.toList) ↔
      (['$', '\x7b'] <:+: value.toList → DollarsStandAlone value.toList) := by
  constructor
  · intro hagree hopens
    obtain ⟨environment, hset⟩ := exists_setsAll value.toList
    obtain ⟨out, hread⟩ := hset.exists_fillAll
    have hok : expandField environment "" value = .ok (String.ofList out) := by
      rw [expandField_eq_ok_iff, expandValue_eq_ok_iff hopens, String.toList_ofList, hread]
    have hfills := (hagree environment "" _).1 hok
    rw [String.toList_ofList] at hfills
    exact hset.dollarsStandAlone hread hfills
  · intro halone environment field out
    rw [expandField_eq_ok_iff]
    by_cases hopens : ['$', '\x7b'] <:+: value.toList
    · rw [expandValue_eq_ok_iff hopens, (halone hopens).fillAll_read_iff]
    · have hplain : isTemplate value.toList = false := by
        rw [← Bool.not_eq_true, isTemplate_iff]
        exact hopens
      rw [expandValue, hplain, fillsGroups_iff_of_no_opening hopens, String.toList_inj, eq_comm]
      simp

/-- Two dollar signs become one in front of a reference in braces, and a name without braces makes
the value fail. -/
theorem not_fillsGroups_mixedDollars :
    expandField [("A", "x")] "server" "$$ $\x7bA\x7d" = .ok "$ x" ∧
      ¬ FillsGroups [("A", "x")] "$$ $\x7bA\x7d".toList "$ x".toList ∧
      FillsGroups [("A", "x")] "$$ $\x7bA\x7d".toList "$$ x".toList ∧
      expandField [("A", "x")] "server" "$B/$\x7bA\x7d" = .error (.unset "server" "B") ∧
      FillsGroups [("A", "x")] "$B/$\x7bA\x7d".toList "$B/x".toList := by
  have hstart : StartsWithGroup ['$', '\x7b', 'A', '\x7d'] ['A'] [] := ⟨rfl, by decide⟩
  have hgroup : FillsGroups [("A", "x")] ['$', '\x7b', 'A', '\x7d'] (['x'] ++ []) :=
    .group hstart rfl .nil
  have hkept {c d : Char} {rest : List Char} (hd : d ≠ '\x7b') (inner behind : List Char) :
      ¬ StartsWithGroup (c :: d :: rest) inner behind := not_startsWithGroup_dollar hd
  have hplain {c : Char} {rest : List Char} (hc : c ≠ '$') (inner behind : List Char) :
      ¬ StartsWithGroup (c :: rest) inner behind := not_startsWithGroup_cons hc
  refine ⟨by cbv, fun hfills => ?_, ?_, by cbv, ?_⟩
  · obtain ⟨more, hmore, hout⟩ := (fillsGroups_cons_iff (hkept (by decide))).1 hfills
    cases hout
    obtain ⟨more, -, hout⟩ := (fillsGroups_cons_iff (hkept (by decide))).1 hmore
    cases hout
  · exact .kept (hkept (by decide)) (.kept (hkept (by decide)) (.kept (hplain (by decide)) hgroup))
  · exact .kept (hkept (by decide)) (.kept (hplain (by decide)) (.kept (hplain (by decide)) hgroup))

end DiagramDoc
