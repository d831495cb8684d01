import DiagramDoc.Proofs.Config.Overrides
import DiagramDoc.Proofs.Diagram.Sequence.Idempotence
import DiagramDoc.Proofs.Diagram.Sequence.References

/-! # Extra reserved words

A configuration may reserve words on top of the keywords. It is checked that they are made of
letters, numbers and underscores, but the name of a participant is made of word characters, and not
every number is one: the superscript two, the half and the circled one are not. A word with such a
number passes the check and is never the name of a participant, so it is reserved in vain.
-/

namespace DiagramDoc

open Text Unicode

/-! ### Reserved words and names -/

namespace Sequence

/-- The same names are reserved. -/
def Agree (r r' : ReservedWords) : Prop :=
  ∀ name, IsName name → r.contains (String.ofList name) = r'.contains (String.ofList name)

variable {r r' : ReservedWords} {name : List Char}

theorem Agree.rename_eq (h : Agree r r') (hname : IsName name) :
    rename r name = rename r' name := by
  rw [rename, rename, h name hname]

theorem Agree.line_repair_eq (h : Agree r r') {l : Line} (hl : l.IsShape) :
    l.repair r = l.repair r' := by
  cases l with
  | declaration d =>
    change Line.declaration _ = Line.declaration _
    rw [h.rename_eq hl.name]
  | message m =>
    change Line.message _ = Line.message _
    rw [h.rename_eq hl.sender, h.rename_eq hl.receiver]
  | opening o =>
    change Line.opening _ = Line.opening _
    rw [h.rename_eq hl.1.sender]
  | note n | other chars => rfl

/-- **Repair only asks for names.** -/
theorem Agree.repair_eq (h : Agree r r') (source : List Char) :
    repair r source = repair r' source := by
  rw [repair_eq_mapLines, repair_eq_mapLines]
  apply mapLines_congr
  intro line _
  obtain ⟨l, rfl, hl⟩ := Line.exists_isShape line
  rw [repairLine_text r hl, repairLine_text r' hl, h.line_repair_eq hl]

/-! ### Declarations of what is no name -/

theorem declaredName?_participant {cs : List Char} (hcs : Stops isBlank cs) :
    declaredName? ("participant ".toList ++ cs) = takeName? cs := by
  have hline : "participant ".toList ++ cs = "participant".toList ++ ([' '] ++ cs) := by
    rw [← List.append_assoc]
    rfl
  have hblanks : takeBlanks ("participant".toList ++ ([' '] ++ cs)) =
      ([], "participant".toList ++ ([' '] ++ cs)) :=
    takeBlanks_eq_iff.2 ⟨rfl, List.forall_mem_nil _, stops_cons.2 (by decide)⟩
  have hkeyword : dropOneOf? ["participant", "actor"] ("participant".toList ++ ([' '] ++ cs)) =
      some ([' '] ++ cs) :=
    dropDeclarationKeyword_eq_some_iff.2
      ⟨_, rfl, "participant", List.mem_cons_self, by decide⟩
  have hgap : takeGap? ([' '] ++ cs) = some ([' '], cs) :=
    takeGap?_eq_some_iff.2 ⟨rfl, ⟨by decide, List.forall_mem_singleton.2 (by decide)⟩, hcs⟩
  rw [hline, declaredName?]
  simp only [hblanks, hkeyword, hgap, Option.bind_eq_bind, Option.bind_some]

/-- In a declaration the name ends at a blank. -/
theorem Declaration.IsShape.name_eq {d : Declaration} (hd : d.IsShape)
    (h : d.text = "participant ".toList ++ name ++ " as A".toList) (hne : name ≠ [])
    (hblank : ∀ c ∈ name, isBlank c = false) : d.name = name := by
  have hstops : Stops isBlank (name ++ " as A".toList) := by
    obtain ⟨c, name, rfl⟩ := List.exists_cons_of_ne_nil hne
    exact stops_cons.2 (hblank c List.mem_cons_self)
  have hdeclared : declaredName? d.text = some (d.name, d.displayed) :=
    declaredName?_eq_some_iff.2 ⟨d.head, rfl, hd.head, hd.name, hd.stops⟩
  rw [h, List.append_assoc, declaredName?_participant hstops] at hdeclared
  obtain ⟨hsame, -, -⟩ := takeName?_eq_some_iff.1 hdeclared
  obtain ⟨gap, word, space, shown, hdisplayed, hgap, -⟩ := hasAlias_iff.1 hd.hasAlias
  obtain ⟨g, gap, rfl⟩ := List.exists_cons_of_ne_nil hgap.1
  have htoBlank {run rest : List Char} (hrun : ∀ c ∈ run, isBlank c = false) {b : Char}
      (hb : isBlank b = true) : (run ++ b :: rest).takeWhile (!isBlank ·) = run := by
    apply takeWhile_append
    · simpa using hrun
    · exact stops_cons.2 (by simpa using hb)
  calc d.name = (d.name ++ d.displayed).takeWhile (!isBlank ·) := by
        rw [hdisplayed]
        exact (htoBlank (fun c hc => isBlank_of_isWord (hd.name.2 c hc))
          (hgap.2 g List.mem_cons_self)).symm
    _ = (name ++ " as A".toList).takeWhile (!isBlank ·) := by rw [hsame]
    _ = name := htoBlank hblank (by decide)

/-- What is declared with a character that names do not have stays as it is. -/
theorem repair_declaration_of_not_isName (r : ReservedWords) (hne : name ≠ [])
    (hplain : ∀ c ∈ name, isAlphanumeric c = true ∨ c = '_') (hname : ¬ IsName name) :
    repair r ("participant ".toList ++ name ++ " as A".toList) =
      "participant ".toList ++ name ++ " as A".toList := by
  have hnone {d : Char} (hd : isAlphanumeric d = false ∧ d ≠ '_') : d ∉ name := fun hmem =>
    (hplain d hmem).elim (fun h => absurd (h.symm.trans hd.1) (by decide)) hd.2
  obtain ⟨line, hline⟩ : ∃ line, line = "participant ".toList ++ name ++ " as A".toList := ⟨_, rfl⟩
  have hfree : ∀ d ∈ ['\n', '<', '-', ':'], d ∉ line := by
    have hchars : ['\n', '<', '-', ':'].all fun d => isAlphanumeric d = false ∧ d ≠ '_' ∧
        d ∉ "participant ".toList ∧ d ∉ " as A".toList := by
      decide
    intro d hd
    obtain ⟨hletter, hscore, hhead, hend⟩ := of_decide_eq_true (List.all_eq_true.1 hchars d hd)
    rw [hline, List.mem_append, List.mem_append, not_or, not_or]
    exact ⟨⟨hhead, hnone ⟨hletter, hscore⟩⟩, hend⟩
  have hopening {o : Opening} (ho : o.IsShape) : o.text ≠ line := by
    rintro rfl
    obtain ⟨gap, arrow, more, hrest, -, harrow⟩ := ho.exists_arrow
    obtain ⟨c, tail, rfl, hc⟩ := head_of_mem_arrows (takeArrow?_eq_some harrow).2
    have hmem : c ∈ o.text := by simp [Opening.text, hrest]
    rcases List.mem_cons.1 hc with rfl | hc
    · exact hfree _ (by decide) hmem
    · obtain rfl := List.mem_singleton.1 hc
      exact hfree _ (by decide) hmem
  obtain ⟨l, htext, hl⟩ := Line.exists_isShape line
  rw [← hline, repair_eq_mapLines, mapLines_of_notMem (hfree _ (by decide)), htext,
    repairLine_text r hl]
  cases l with
  | declaration d =>
    have hblank : ∀ c ∈ name, isBlank c = false := by
      intro c hc
      by_contra h
      rw [Bool.not_eq_false, isBlank, Bool.or_eq_true, beq_iff_eq, beq_iff_eq] at h
      rcases h with rfl | rfl <;> exact hnone (by decide) hc
    have hsame := Declaration.IsShape.name_eq hl (htext.symm.trans hline) hne hblank
    exact absurd (hsame ▸ hl.name) hname
  | message m =>
    exact absurd (m.text_opening.trans htext.symm) (hopening (Message.IsShape.opening hl))
  | opening o => exact absurd htext.symm (hopening hl.1)
  | note n =>
    obtain ⟨indent, keyword, gap, side, place, hhead, -⟩ := Note.IsShape.head hl
    have hmem : ':' ∈ line := by simp [htext, Line.text, Note.text, hhead]
    exact absurd hmem (hfree _ (by decide))
  | other chars => rfl

end Sequence

/-! ### Configurations -/

namespace Config

variable {c : Config} {word : String}

theorem contains_extraReserved (hrepair : c.repair = true) (hword : word ∈ c.extraReserved) :
    c.repairOptions.reserved.contains word = true := by
  rw [repairOptions, if_pos hrepair, ReservedWords.contains_addAll, Bool.or_eq_true,
    List.any_eq_true]
  exact Or.inr ⟨word, hword, sameIgnoringCase_iff.2 rfl⟩

/-- The configuration without an extra reserved word. -/
def unreserve (c : Config) (word : String) : Config :=
  { c with extraReserved := c.extraReserved.filter (· ≠ word) }

/-- A word that is no name is equal to none, in no case of its letters. -/
theorem agree_unreserve (hname : ¬ IsName word.toList) :
    Sequence.Agree c.repairOptions.reserved (c.unreserve word).repairOptions.reserved := by
  intro name hisName
  have hother {w : String} (hsame : sameIgnoringCase w (String.ofList name) = true) : w ≠ word := by
    rintro rfl
    rw [sameIgnoringCase_iff, String.toList_ofList] at hsame
    rw [← isName_asciiLower_iff, hsame, isName_asciiLower_iff] at hname
    exact hname hisName
  rw [repairOptions, repairOptions, unreserve]
  split
  · rw [ReservedWords.contains_addAll, ReservedWords.contains_addAll, List.any_filter]
    congr 2
    funext w
    cases hsame : sameIgnoringCase w (String.ofList name) with
    | true => simp [hother hsame]
    | false => rw [Bool.and_false]
  · rfl

theorem repairAs_unreserve (hname : ¬ IsName word.toList) (source : String) :
    repairAs .sequence c.repairOptions source =
      repairAs .sequence (c.unreserve word).repairOptions source := by
  have hagree := agree_unreserve (c := c) hname
  have henabled : (c.unreserve word).repairOptions.enabled = c.repairOptions.enabled := by
    have hrepair : (c.unreserve word).repair = c.repair := rfl
    rw [repairOptions, repairOptions, hrepair]
    cases c.repair <;> rfl
  rw [repairAs, repairAs, hagree.repair_eq, henabled]

theorem repairAs_sequence (hrepair : c.repair = true) (source : String) :
    repairAs .sequence c.repairOptions source =
      String.ofList (Sequence.repair c.repairOptions.reserved source.toList) := by
  rw [repairAs, if_pos]
  rw [repairOptions, if_pos hrepair]

theorem repairAs_of_isName (hrepair : c.repair = true) (hword : word ∈ c.extraReserved)
    (hname : IsName word.toList) :
    repairAs .sequence c.repairOptions ("participant " ++ word ++ " as A") =
      "participant " ++ word ++ "_ as A" := by
  have hrename : Sequence.rename c.repairOptions.reserved word.toList = word.toList ++ ['_'] := by
    apply if_pos
    rw [String.ofList_toList]
    exact contains_extraReserved hrepair hword
  have hend : "_ as A".toList = ['_'] ++ " as A".toList := rfl
  rw [repairAs_sequence hrepair, String.toList_append, String.toList_append,
    Sequence.repair_declaration hname, hrename, ← String.toList_inj, String.toList_ofList,
    String.toList_append, String.toList_append, hend]
  simp only [List.append_assoc]

theorem repairAs_of_not_isName (hvalid : c.IsValid) (hrepair : c.repair = true)
    (hword : word ∈ c.extraReserved) (hname : ¬ IsName word.toList) :
    repairAs .sequence c.repairOptions ("participant " ++ word ++ " as A") =
      "participant " ++ word ++ " as A" := by
  obtain ⟨hne, hplain⟩ := hvalid.words word hword
  have hnil : word.toList ≠ [] := fun hnil => hne (String.toList_eq_nil_iff.1 hnil)
  rw [repairAs_sequence hrepair, String.toList_append, String.toList_append,
    Sequence.repair_declaration_of_not_isName _ hnil hplain hname, ← String.toList_inj,
    String.toList_ofList, String.toList_append, String.toList_append]

/-- **An extra reserved word takes effect exactly if it is made of word characters.** Then a
participant with its name gets an underscore. Otherwise the declaration stays as it is, and every
source is repaired as if the word were not reserved. -/
theorem reserves_iff (hvalid : c.fault? = none) (hrepair : c.repair = true)
    (hword : word ∈ c.extraReserved) :
    (repairAs .sequence c.repairOptions ("participant " ++ word ++ " as A") =
        "participant " ++ word ++ "_ as A" ↔ ∀ ch ∈ word.toList, isWord ch = true) ∧
      ((∃ ch ∈ word.toList, isWord ch = false) →
        repairAs .sequence c.repairOptions ("participant " ++ word ++ " as A") =
            "participant " ++ word ++ " as A" ∧
          ∀ source, repairAs .sequence c.repairOptions source =
            repairAs .sequence (c.unreserve word).repairOptions source) := by
  have hvalid := fault?_eq_none_iff.1 hvalid
  have hnil : word.toList ≠ [] := fun hnil =>
    (hvalid.words word hword).1 (String.toList_eq_nil_iff.1 hnil)
  constructor
  · refine ⟨fun hrenamed => ?_, fun hchars => repairAs_of_isName hrepair hword ⟨hnil, hchars⟩⟩
    by_contra hchars
    have hkept := repairAs_of_not_isName hvalid hrepair hword fun hname => hchars hname.2
    have hlength := congrArg String.length (hkept.symm.trans hrenamed)
    simp only [String.length_append] at hlength
    exact absurd (Nat.add_left_cancel hlength) (by decide)
  · rintro ⟨ch, hch, hnot⟩
    have hname : ¬ IsName word.toList := fun hname =>
      absurd ((hname.2 ch hch).symm.trans hnot) (by decide)
    exact ⟨repairAs_of_not_isName hvalid hrepair hword hname, repairAs_unreserve hname⟩

/-- A word that is a name, and one that is a letter and a superscript. -/
def squared : Config := { standard with extraReserved := ["box", "x²"] }

theorem reserves_squared :
    squared.fault? = none ∧ squared.repair = true ∧
      repairAs .sequence squared.repairOptions "participant box as A" = "participant box_ as A" ∧
      repairAs .sequence squared.repairOptions "participant x² as A" = "participant x² as A" := by
  have hvalid : squared.fault? = none := by decide +kernel
  have hbox := (reserves_iff hvalid rfl (by decide : "box" ∈ squared.extraReserved)).1.2
    (List.all_eq_true.1 (by decide))
  have hsquare := ((reserves_iff hvalid rfl (by decide : "x²" ∈ squared.extraReserved)).2
    ⟨'²', by decide, by decide⟩).1
  exact ⟨hvalid, rfl, hbox, hsquare⟩

/-- The configuration is valid, but its second word is reserved in vain. -/
theorem not_reserves_squared :
    squared.fault? = none ∧ squared.repair = true ∧ "x²" ∈ squared.extraReserved ∧
      repairAs .sequence squared.repairOptions "participant x² as A" ≠ "participant x²_ as A" := by
  decide +kernel

end Config

end DiagramDoc
