import DiagramDoc.Proofs.Diagram.ReservedWords
import DiagramDoc.Proofs.Diagram.Sequence.Passes

/-! # Repairing again

What is quoted stays quoted, so a second repair can only rename. It renames a name that was
renamed before if the name with its underscore is reserved as well. In that case the declaration
of the name already shows it; otherwise a second repair changes nothing.
-/

namespace DiagramDoc.Sequence

open Text Unicode

/-! ### Names -/

/-- The name of a participant among the reserved words that is reserved with an underscore, too. -/
def RenamesTwice (reserved : ReservedWords) : Prop :=
  ∃ w ∈ reserved.words, w ≠ "" ∧ (∀ c ∈ w.toList, isWord c = true) ∧
    reserved.contains (w ++ "_") = true

variable {reserved : ReservedWords}

theorem contains_append_underscore (h : ¬ RenamesTwice reserved) {name : List Char}
    (hname : IsName name) (hcontains : reserved.contains (String.ofList name) = true) :
    reserved.contains (String.ofList (name ++ ['_'])) = false := by
  by_contra hagain
  rw [Bool.not_eq_false] at hagain
  obtain ⟨w, hw, hsame⟩ := List.any_eq_true.1 hcontains
  rw [sameIgnoringCase_iff, String.toList_ofList] at hsame
  apply h
  refine ⟨w, hw, ?_, ?_, ?_⟩
  · rintro rfl
    exact hname.1 (List.map_eq_nil_iff.1 hsame.symm)
  · rw [← isName_asciiLower_iff, ← hsame, isName_asciiLower_iff] at hname
    exact hname.2
  · rw [← hagain]
    apply ReservedWords.contains_congr
    have hlist : (String.ofList (name ++ ['_'])).toList = name ++ ['_'] := String.toList_ofList
    rw [hlist, String.toList_append, asciiLower_append, asciiLower_append, hsame]
    rfl

theorem rename_rename (h : ¬ RenamesTwice reserved) {name : List Char} (hname : IsName name) :
    rename reserved (rename reserved name) = rename reserved name := by
  by_cases hcontains : reserved.contains (String.ofList name) = true
  · have honce : rename reserved name = name ++ ['_'] := if_pos hcontains
    rw [honce, rename, contains_append_underscore h hname hcontains]
    rfl
  · have hnever : rename reserved name = name := if_neg hcontains
    rw [hnever, hnever]

/-! ### Quotes -/

theorem Quoting.apply_apply (q : Quoting) (body : List Char) :
    q.apply (q.apply body) = q.apply body := by
  by_cases hkeep : (isQuoted (Body.ofChars body).text ||
      !(Body.ofChars body).text.any (q.triggers.contains ·)) = true
  · have hsame : q.apply body = body := if_pos hkeep
    rw [hsame, hsame]
  · obtain ⟨inner, hinner⟩ : ∃ inner, inner =
      (Body.ofChars body).text.flatMap fun c => if c = '"' then q.innerQuote else [c] := ⟨_, rfl⟩
    obtain ⟨trail, htrail⟩ : ∃ trail, trail = (Body.ofChars body).trail := ⟨_, rfl⟩
    have hquoted : q.apply body = ' ' :: (['"'] ++ inner ++ '"' :: trail) := by
      rw [Quoting.apply, if_neg hkeep, hinner, htrail]
      simp
    have hrun : ∀ c ∈ trail, Body.isTrail c = true := by
      rw [htrail]
      exact fun c hc => of_mem_takeEndWhile hc
    have htext : (Body.ofChars (q.apply body)).text = ['"'] ++ inner ++ ['"'] := by
      rw [hquoted]
      have hblank : ∀ c ∈ [' '], isBlank c = true := by
        rw [List.forall_mem_singleton]
        rfl
      have hdrop : (' ' :: (['"'] ++ inner ++ '"' :: trail)).dropWhile isBlank =
          ['"'] ++ inner ++ '"' :: trail :=
        dropWhile_append hblank (stops_cons.2 (by decide))
      rw [Body.ofChars, hdrop]
      exact dropEndWhile_append _ (by decide) hrun
    have hisQuoted : isQuoted (Body.ofChars (q.apply body)).text = true := by
      rw [htext, isQuoted, List.getLast?_concat]
      simp
    rw [Quoting.apply, hisQuoted]
    rfl

/-! ### Lines and sources -/

theorem Line.repair_repair (h : ¬ RenamesTwice reserved) {l : Line} (hl : l.IsShape) :
    (l.repair reserved).repair reserved = l.repair reserved := by
  cases l with
  | declaration d =>
    change Line.declaration _ = Line.declaration _
    rw [rename_rename h hl.name]
  | message m =>
    change Line.message _ = Line.message _
    rw [rename_rename h hl.sender, rename_rename h hl.receiver, Quoting.apply_apply]
  | opening o =>
    change Line.opening _ = Line.opening _
    rw [rename_rename h hl.1.sender]
  | note n =>
    change Line.note _ = Line.note _
    rw [Quoting.apply_apply]
  | other chars => rfl

/-- **A second repair changes nothing** unless names are renamed twice. -/
theorem repair_repair (h : ¬ RenamesTwice reserved) (source : List Char) :
    repair reserved (repair reserved source) = repair reserved source := by
  rw [repair_eq_mapLines, repair_eq_mapLines, mapLines_mapLines (staysInLine_repairLine reserved)]
  apply mapLines_congr
  intro line _
  obtain ⟨l, rfl, hl⟩ := Line.exists_isShape line
  rw [Function.comp_apply, repairLine_text reserved hl,
    repairLine_text reserved (hl.repair reserved), Line.repair_repair h hl]

/-! ### Names that are renamed twice -/

theorem hasAlias_as : HasAlias " as A".toList :=
  ⟨[' '], "as A".toList, " A".toList, by decide, by decide, by decide⟩

theorem repair_declaration {name : List Char} (hname : IsName name) :
    repair reserved ("participant ".toList ++ name ++ " as A".toList) =
      "participant ".toList ++ rename reserved name ++ " as A".toList := by
  have hhead : ∃ indent keyword gap, "participant ".toList = indent ++ keyword ++ gap ∧
      IsBlanks indent ∧ (∃ k ∈ ["participant", "actor"], asciiLower keyword = k.toList) ∧
      IsGap gap :=
    ⟨[], "participant".toList, [' '], by decide, by simp [IsBlanks],
      ⟨"participant", List.mem_cons_self, by decide⟩, by decide, by simp [IsBlanks, isBlank]⟩
  obtain ⟨head, heq⟩ : ∃ head, head = "participant ".toList := ⟨_, rfl⟩
  obtain ⟨displayed, heq'⟩ : ∃ displayed, displayed = " as A".toList := ⟨_, rfl⟩
  have hfeed : '\n' ∉ head ++ name ++ displayed := by
    rw [List.mem_append, List.mem_append, not_or, not_or, heq, heq']
    refine ⟨⟨by decide, ?_⟩, by decide⟩
    intro hmem
    exact absurd (hname.2 _ hmem) (by decide)
  have hshape : (Line.declaration ⟨head, name, displayed⟩).IsShape := by
    rw [← heq] at hhead
    refine ⟨hhead, hname, ?_, ?_⟩
    · rw [heq']
      exact stops_cons.2 (by decide)
    · rw [heq']
      exact hasAlias_as
  rw [← heq, ← heq', repair_eq_mapLines, mapLines_of_notMem hfeed]
  have hline := repairLine_text reserved hshape
  have hrepaired : (Line.declaration ⟨head, name, displayed⟩).repair reserved =
      Line.declaration ⟨head, rename reserved name, displayed⟩ := rfl
  rw [hrepaired] at hline
  exact hline

theorem not_renamesTwice_standard : ¬ RenamesTwice .standard := by
  rintro ⟨w, hw, -, -, hagain⟩
  have hnever : ∀ w ∈ ReservedWords.standard.words,
      ReservedWords.standard.contains (w ++ "_") = false := by
    decide +kernel
  rw [hnever w hw] at hagain
  cases hagain

theorem RenamesTwice.exists_repair_ne (h : RenamesTwice reserved) :
    ∃ source, repair reserved (repair reserved source) ≠ repair reserved source := by
  obtain ⟨w, hw, hne, hword, hagain⟩ := h
  have hname : IsName w.toList := ⟨fun hnil => hne (String.toList_eq_nil_iff.1 hnil), hword⟩
  have honce : rename reserved w.toList = w.toList ++ ['_'] := by
    apply if_pos
    rw [String.ofList_toList]
    exact List.any_eq_true.2 ⟨w, hw, sameIgnoringCase_iff.2 rfl⟩
  have htwice : rename reserved (w.toList ++ ['_']) = w.toList ++ ['_'] ++ ['_'] := by
    have hlist : (String.ofList (w.toList ++ ['_'])).toList = w.toList ++ ['_'] :=
      String.toList_ofList
    apply if_pos
    rw [← hagain]
    apply ReservedWords.contains_congr
    rw [hlist, String.toList_append]
    rfl
  have hname' : IsName (w.toList ++ ['_']) := by
    rw [← honce]
    exact isName_rename reserved hname
  refine ⟨"participant ".toList ++ w.toList ++ " as A".toList, ?_⟩
  rw [repair_declaration hname, honce, repair_declaration hname', htwice]
  intro heq
  have hlength := congrArg List.length heq
  simp only [List.length_append, List.length_singleton] at hlength
  omega

/-- **Repair is idempotent exactly if no name is renamed twice.** With the standard words none
is. -/
theorem repair_idempotent_iff :
    (∀ reserved : ReservedWords,
      (∀ source, repair reserved (repair reserved source) = repair reserved source) ↔
        ¬ ∃ w ∈ reserved.words, w ≠ "" ∧ (∀ c ∈ w.toList, isWord c = true) ∧
          reserved.contains (w ++ "_") = true) ∧
      ∀ source, repair .standard (repair .standard source) = repair .standard source := by
  refine ⟨fun reserved => ⟨?_, ?_⟩, repair_repair not_renamesTwice_standard⟩
  · intro hall htwice
    obtain ⟨source, hne⟩ := RenamesTwice.exists_repair_ne htwice
    exact hne (hall source)
  · intro hnone source
    exact repair_repair hnone source

end DiagramDoc.Sequence
