import DiagramDoc.Diagram.Repair
import DiagramDoc.Proofs.Diagram.Flow.Edits
import DiagramDoc.Proofs.Diagram.Sequence.Passes

/-! # Headers under repair

A line that is the sequence header and nothing else decides how a source is repaired, so no repair
may make such a line or take one away. The passes over a sequence diagram find nothing to change in
it. The repair of a flowchart may join lines, but what it joins holds the brackets of a label, and
a header holds none.
-/

namespace DiagramDoc

open Text

def IsHeader (line : List Char) : Prop := trim line = Dialect.sequenceHeader

instance (line : List Char) : Decidable (IsHeader line) :=
  inferInstanceAs (Decidable (_ = _))

theorem IsHeader.notMem {line : List Char} (h : IsHeader line) {c : Char}
    (hspace : isSpace c = false) (hc : c ∉ Dialect.sequenceHeader) : c ∉ line := by
  rwa [← mem_trim hspace, h]

/-! ### Lines and pieces -/

theorem trim_dropReturn (line : List Char) : trim (dropReturn line) = trim line := by
  rw [dropReturn]
  split
  · next hlast =>
    obtain ⟨init, rfl⟩ := List.getLast?_eq_some_iff.1 hlast
    rw [List.dropLast_concat, trim_concat (by decide)]
  · rfl

theorem ofSource_eq_sequence_iff {source : List Char} :
    Dialect.ofSource source = .sequence ↔
      ∃ line ∈ splitAt (· == '\n') source, IsHeader line := by
  have hlines : (∃ line ∈ lines source, IsHeader line) ↔
      ∃ line ∈ splitAt (· == '\n') source, IsHeader line :=
    exists_mem_lines_iff (by decide) fun line => by rw [IsHeader, trim_dropReturn, IsHeader]
  have hany : Dialect.ofSource source = .sequence ↔ ∃ line ∈ lines source, IsHeader line := by
    rw [Dialect.ofSource]
    split
    · next h => simpa [IsHeader] using h
    · next h => simpa [IsHeader] using h
  rw [hany, hlines]

/-! ### Flowcharts -/

/-- A line without the brackets `l` and `r` lies in front of what they enclose or behind it. If
that becomes a single line, no such line is made of its parts. -/
theorem mem_splitAt_of_enclosed {line front label label' rest rest' : List Char} {l r : Char}
    (hl : l ≠ '\n') (hl' : l ∉ line) (hr : r ≠ '\n') (hr' : r ∉ line)
    (hlabel : '\n' ∉ label')
    (hrest : line ∈ splitAt (· == '\n') (r :: rest') → line ∈ splitAt (· == '\n') (r :: rest))
    (h : line ∈ splitAt (· == '\n') (front ++ l :: (label' ++ r :: rest'))) :
    line ∈ splitAt (· == '\n') (front ++ l :: (label ++ r :: rest)) := by
  have hbehind (rest : List Char) : line ∈ splitAt (· == '\n') (r :: rest) ↔
      line ∈ (splitAt (· == '\n') rest).tail := by
    rw [← List.nil_append (r :: rest), mem_splitAt_append_cons hr hr']
    exact or_iff_right List.not_mem_nil
  rw [mem_splitAt_append_cons hl hl'] at h
  rcases h with hfront | hbehind'
  · rw [mem_splitAt_append_cons hl hl']
    exact Or.inl hfront
  · have hpiece : splitAt (· == '\n') label' = [label'] := by
      apply splitAt_of_forall
      intro c hc
      exact beq_eq_false_iff_ne.2 fun heq => hlabel (heq ▸ hc)
    have hmem := List.mem_of_mem_tail hbehind'
    rw [mem_splitAt_append_cons hr hr', hpiece] at hmem
    have htail := (hbehind rest).1 (hrest ((hbehind rest').2 (hmem.resolve_left List.not_mem_nil)))
    rw [← List.cons_append, ← List.append_assoc, mem_splitAt_append_cons hr hr']
    exact Or.inr htail

theorem mem_splitAt_of_repaired {line : List Char} (hline : ∀ c, Flow.isBracket c = true → c ∉ line)
    (ts : List Flow.Token) (front : List Char)
    (h : line ∈ splitAt (· == '\n') (front ++ ts.flatMap fun t => t.repaired.text)) :
    line ∈ splitAt (· == '\n') (front ++ ts.flatMap Flow.Token.text) := by
  induction ts generalizing front with
  | nil => exact h
  | cons t ts ih =>
    rw [List.flatMap_cons] at h ⊢
    have hsame (hkept : t.repaired = t) :
        line ∈ splitAt (· == '\n') (front ++ (t.text ++ ts.flatMap Flow.Token.text)) := by
      rw [hkept, ← List.append_assoc] at h
      rw [← List.append_assoc]
      exact ih _ h
    cases t with
    | plain text => exact hsame rfl
    | label kind head content =>
      by_cases hquote : Flow.MustQuote kind content
      · have hopening : kind.opening ≠ '\n' ∧ kind.opening ∉ line :=
          ⟨by cases kind <;> decide, hline _ (by cases kind <;> decide)⟩
        have hclosing : kind.closing ≠ '\n' ∧ kind.closing ∉ line :=
          ⟨by cases kind <;> decide, hline _ (by cases kind <;> decide)⟩
        rw [Flow.Token.repaired, Flow.mustQuote_iff.1 hquote, Option.getD_some] at h
        have hcut (content rest : List Char) : front ++
            ((Flow.Token.label kind head content).text ++ rest) =
              front ++ head ++ kind.opening :: (content ++ kind.closing :: rest) := by
          simp [Flow.Token.text]
        rw [hcut] at h ⊢
        exact mem_splitAt_of_enclosed hopening.1 hopening.2 hclosing.1 hclosing.2
          (Flow.feed_notMem_quoted content) (ih [kind.closing]) h
      · apply hsame
        rw [Flow.Token.repaired, Flow.quoteLabel?_eq_none_iff.2 hquote, Option.getD_none]

theorem IsHeader.bracket_notMem {line : List Char} (h : IsHeader line) :
    ∀ c, Flow.isBracket c = true → c ∉ line := by
  intro c hc
  apply h.notMem (Flow.isSpace_of_isBracket hc)
  intro hmem
  have hnone : Dialect.sequenceHeader.filter Flow.isBracket = [] := by decide
  exact List.filter_eq_nil_iff.1 hnone c hmem hc

theorem Flow.mem_splitAt_of_repair {line source : List Char} (hline : IsHeader line)
    (h : line ∈ splitAt (· == '\n') (Flow.repair source)) :
    line ∈ splitAt (· == '\n') source := by
  rw [Flow.repair] at h
  split at h
  · exact h
  · have hmem := mem_splitAt_of_repaired hline.bracket_notMem (tokens source) [] h
    rwa [List.nil_append, flatMap_text_tokens] at hmem

/-! ### Sequence diagrams -/

/-- The text of any line with a meaning has a character that the header lacks. -/
theorem Sequence.Line.eq_other_of_isHeader {l : Sequence.Line} (hl : l.IsShape)
    (h : IsHeader l.text) : ∃ chars, l = .other chars := by
  have hopening {o : Opening} (ho : o.IsShape) : ¬ IsHeader o.text := by
    intro hheader
    obtain ⟨gap, arrow, more, hrest, -, harrow⟩ := ho.exists_arrow
    have hall : ∀ arrow ∈ arrows, '-' ∈ arrow := by decide
    have hhyphen : '-' ∈ o.text := by
      rw [Opening.text, hrest]
      simp [hall arrow (takeArrow?_eq_some harrow).2]
    exact hheader.notMem (by decide) (by decide) hhyphen
  cases l with
  | declaration d =>
    obtain ⟨indent, keyword, gap, hhead, -, ⟨k, hk, hlower⟩, -⟩ := hl.head
    have hall : ∀ k ∈ ["participant", "actor"], 't' ∈ k.toList := by decide
    have ht : 't' ∈ asciiLower keyword := hlower ▸ hall k hk
    obtain ⟨c, hc, hct⟩ := List.mem_map.1 ht
    have hmem : c ∈ d.text := by simp [Declaration.text, hhead, hc]
    rcases eq_or_eq_toUpper_of_toLower hct with rfl | rfl
    · exact absurd hmem (h.notMem (by decide) (by decide))
    · exact absurd hmem (h.notMem (by decide) (by decide))
  | message m =>
    rw [Line.text, ← m.text_opening] at h
    exact absurd h (hopening (Message.IsShape.opening hl))
  | opening o => exact absurd h (hopening hl.1)
  | note n =>
    obtain ⟨indent, keyword, gap, side, place, hhead, -⟩ := hl.head
    have hcolon : ':' ∈ n.text := by simp [Note.text, hhead]
    exact absurd hcolon (h.notMem (by decide) (by decide))
  | other chars => exact ⟨chars, rfl⟩

theorem Sequence.mem_splitAt_repair_iff {line : List Char} (hline : IsHeader line)
    (reserved : ReservedWords) (source : List Char) :
    line ∈ splitAt (· == '\n') (Sequence.repair reserved source) ↔
      line ∈ splitAt (· == '\n') source := by
  rw [repair_eq_mapLines, splitAt_mapLines (staysInLine_repairLine reserved), List.mem_map]
  constructor
  · rintro ⟨old, hold, rfl⟩
    obtain ⟨l, rfl, hl⟩ := Line.exists_isShape old
    rw [repairLine_text reserved hl] at hline ⊢
    obtain ⟨chars, hchars⟩ := Line.eq_other_of_isHeader (hl.repair reserved) hline
    cases l <;> cases hchars
    exact hold
  · intro hmem
    obtain ⟨l, rfl, hl⟩ := Line.exists_isShape line
    obtain ⟨chars, rfl⟩ := Line.eq_other_of_isHeader hl hline
    exact ⟨_, hmem, repairLine_text reserved hl⟩

/-! ### The classification -/

theorem Dialect.eq_of_eq_sequence_iff {d d' : Dialect} (h : d = .sequence ↔ d' = .sequence) :
    d = d' := by
  cases d <;> cases d' <;> simp at h ⊢

/-- **No repair changes the dialect.** -/
theorem ofSource_repair (options : RepairOptions) (source : String) :
    Dialect.ofSource (repair options source).toList = Dialect.ofSource source.toList ∧
      ∀ line, trim line = Dialect.sequenceHeader →
        (line ∈ splitAt (· == '\n') (repair options source).toList ↔
          line ∈ splitAt (· == '\n') source.toList) := by
  have hlines : ∀ line, IsHeader line →
      (line ∈ splitAt (· == '\n') (repair options source).toList ↔
        line ∈ splitAt (· == '\n') source.toList) := by
    intro line hline
    rw [repair]
    unfold repairAs
    split
    · split
      · rw [String.toList_ofList]
        exact Sequence.mem_splitAt_repair_iff hline options.reserved source.toList
      · next hflow =>
        rw [String.toList_ofList]
        refine ⟨Flow.mem_splitAt_of_repair hline, fun hmem => ?_⟩
        rw [ofSource_eq_sequence_iff.2 ⟨line, hmem, hline⟩] at hflow
        cases hflow
    · exact Iff.rfl
  refine ⟨?_, hlines⟩
  have hsequence : Dialect.ofSource (repair options source).toList = .sequence ↔
      Dialect.ofSource source.toList = .sequence := by
    rw [ofSource_eq_sequence_iff, ofSource_eq_sequence_iff]
    exact exists_congr fun line => and_congr_left fun hline => hlines line hline
  exact Dialect.eq_of_eq_sequence_iff hsequence

end DiagramDoc
