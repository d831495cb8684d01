import DiagramDoc.Proofs.Diagram.Headers
import DiagramDoc.Proofs.Text.Words

/-! # Preambles of diagrams

In front of the line that names its type a diagram may have a front matter block, comments and blank
lines. The search for the header sees none of them, so a source has a foreign header exactly if it
is such a preamble, a line whose first word names a foreign type, and any text behind that line.
A final line feed and the carriage returns at the ends of lines make no difference.
-/

namespace DiagramDoc

open Text

/-! ### Preambles -/

/-- A line without syntax: it is blank, or a comment. -/
def IsSkipped (line : List Char) : Prop := trim line = [] ∨ ['%', '%'] <+: trim line

instance (line : List Char) : Decidable (IsSkipped line) :=
  inferInstanceAs (Decidable (_ ∨ _))

/-- The lines that may stand in front of a header: a front matter block or none, and then lines
without syntax. The block ends at the first fence behind the one that opens it. -/
inductive IsPreamble : List (List Char) → Prop
  | plain {skipped : List (List Char)} (hskipped : ∀ line ∈ skipped, IsSkipped line) :
      IsPreamble skipped
  | frontMatter {first last : List Char} {inner skipped : List (List Char)}
      (hfirst : trim first = frontMatterFence)
      (hinner : ∀ line ∈ inner, trim line ≠ frontMatterFence)
      (hlast : trim last = frontMatterFence) (hskipped : ∀ line ∈ skipped, IsSkipped line) :
      IsPreamble (first :: inner ++ last :: skipped)

/-- A line whose first word is the name of a foreign diagram type. -/
def IsForeignHeader (line : List Char) : Prop :=
  ∃ name ∈ foreignHeaders, (words line).head? = some name.toList

/-- The text of lines, each ended by a line feed. -/
def ended (ls : List (List Char)) : List Char := ls.flatMap (· ++ ['\n'])

variable {line : List Char} {ls : List (List Char)}

theorem ended_cons (line : List Char) (ls : List (List Char)) :
    ended (line :: ls) = line ++ '\n' :: ended ls := by
  rw [ended, List.flatMap_cons, List.append_assoc, List.singleton_append, ended]

theorem carriesSyntax_trim_eq_false_iff : carriesSyntax (trim line) = false ↔ IsSkipped line := by
  rw [carriesSyntax, IsSkipped, Bool.and_eq_false_iff, decide_eq_false_iff_not, not_not,
    Bool.not_eq_false', List.isPrefixOf_iff_prefix]

theorem IsSkipped.ne_fence (h : IsSkipped line) : trim line ≠ frontMatterFence := by
  intro hfence
  rw [IsSkipped, hfence] at h
  revert h
  decide

/-! ### Lines of a text -/

theorem exists_splitAt_eq_cons (sep : Char) (cs : List Char) :
    ∃ pieces, splitAt (· == sep) cs = cs.takeWhile (· ≠ sep) :: pieces := by
  induction cs with
  | nil => exact ⟨[], rfl⟩
  | cons c cs ih =>
    obtain ⟨pieces, hcs⟩ := ih
    by_cases hc : c = sep
    · refine ⟨splitAt (· == sep) cs, ?_⟩
      rw [splitAt, if_pos (by simp [hc]), List.takeWhile_cons_of_neg (by simp [hc])]
    · refine ⟨pieces, ?_⟩
      rw [splitAt, if_neg (by simp [hc]), hcs, List.takeWhile_cons_of_pos (by simp [hc])]

theorem splitAt_ended_append (hlines : ∀ line ∈ ls, '\n' ∉ line) (cs : List Char) :
    splitAt (· == '\n') (ended ls ++ cs) = ls ++ splitAt (· == '\n') cs := by
  induction ls with
  | nil => rfl
  | cons line ls ih =>
    rw [List.forall_mem_cons] at hlines
    have hline : splitAt (· == '\n') line = [line] := by
      apply splitAt_of_forall
      intro c hc
      exact beq_eq_false_iff_ne.2 fun heq => hlines.1 (heq ▸ hc)
    rw [ended_cons, List.append_assoc, List.cons_append,
      splitAt_append_cons (p := (· == '\n')) (beq_self_eq_true _), hline, ih hlines.2,
      List.singleton_append, List.cons_append]

theorem join_append_cons (ls : List (List Char)) (line : List Char) (more : List (List Char)) :
    join ['\n'] (ls ++ line :: more) = ended ls ++ join ['\n'] (line :: more) := by
  induction ls with
  | nil => rfl
  | cons first ls ih =>
    have hne : ls ++ line :: more ≠ [] := by simp
    calc join ['\n'] (first :: ls ++ line :: more)
        = join ['\n'] [first] ++ ['\n'] ++ join ['\n'] (ls ++ line :: more) :=
          join_append (List.cons_ne_nil first []) hne
      _ = ended (first :: ls) ++ join ['\n'] (line :: more) := by
          rw [ih, ended_cons, join, List.append_assoc, List.append_assoc, List.singleton_append,
            List.cons_append]

/-- What is behind the first of some lines is nothing, or starts with a line feed. -/
theorem exists_join_cons (line : List Char) (more : List (List Char)) :
    ∃ rest, join ['\n'] (line :: more) = line ++ rest ∧
      (rest = [] ∨ ∃ behind, rest = '\n' :: behind) := by
  cases more with
  | nil => exact ⟨[], (List.append_nil line).symm, Or.inl rfl⟩
  | cons next more =>
    refine ⟨'\n' :: join ['\n'] (next :: more), ?_, Or.inr ⟨_, rfl⟩⟩
    rw [join, List.append_assoc, List.singleton_append]
    exact List.cons_ne_nil next more

/-! ### The line that carries syntax -/

/-- An empty line at the end carries no syntax. -/
theorem find?_dropFrontMatter_concat (ls : List (List Char)) :
    (dropFrontMatter (ls ++ [[]])).find? carriesSyntax =
      (dropFrontMatter ls).find? carriesSyntax := by
  have hempty : List.find? carriesSyntax [[]] = none := rfl
  cases ls with
  | nil => rfl
  | cons line rest =>
    rw [List.cons_append, dropFrontMatter, dropFrontMatter]
    split
    · rw [List.dropWhile_append]
      cases hrest : rest.dropWhile (· ≠ frontMatterFence) with
      | nil => rfl
      | cons last behind =>
        have hbehind : (last :: behind ++ [[]]).drop 1 = behind ++ [[]] := rfl
        rw [List.isEmpty_cons, if_neg Bool.false_ne_true, hbehind, List.find?_append, hempty,
          Option.or_none, List.drop_one, List.tail_cons]
    · rw [← List.cons_append, List.find?_append, hempty, Option.or_none]

/-- The ends of lines do not matter for the line that carries syntax. -/
theorem significantLine?_eq (source : List Char) :
    significantLine? source =
      (dropFrontMatter ((splitAt (· == '\n') source).map trim)).find? carriesSyntax := by
  obtain ⟨pieces, last, hsplit⟩ := exists_splitAt_eq_concat (· == '\n') source
  have hreturns : (pieces.map dropReturn).map trim = pieces.map trim := by
    rw [List.map_map]
    apply List.map_congr_left
    intro line _
    exact trim_dropReturn line
  rw [significantLine?, lines, hsplit]
  simp only [List.dropLast_concat, List.getLastD_concat, List.map_append, hreturns,
    List.map_singleton]
  by_cases hlast : last = []
  · have htrim : trim last = [] := by rw [hlast]; rfl
    rw [if_pos hlast, List.map_nil, List.append_nil, htrim, find?_dropFrontMatter_concat]
  · rw [if_neg hlast, List.map_singleton]

theorem dropFrontMatter_cons_of_ne {rest : List (List Char)} (h : line ≠ frontMatterFence) :
    dropFrontMatter (line :: rest) = line :: rest := if_neg h

theorem dropWhile_fence_append {inner : List (List Char)}
    (hinner : ∀ line ∈ inner, trim line ≠ frontMatterFence) (behind : List (List Char)) :
    (inner.map trim ++ behind).dropWhile (· ≠ frontMatterFence) =
      behind.dropWhile (· ≠ frontMatterFence) := by
  apply List.dropWhile_append_of_pos
  rw [List.forall_mem_map]
  intro line hline
  exact decide_eq_true (hinner line hline)

theorem dropFrontMatter_frontMatter {first last : List Char} {inner : List (List Char)}
    (hfirst : trim first = frontMatterFence) (hinner : ∀ line ∈ inner, trim line ≠ frontMatterFence)
    (hlast : trim last = frontMatterFence) (behind : List (List Char)) :
    dropFrontMatter ((first :: inner ++ last :: behind).map trim) = behind.map trim := by
  rw [List.cons_append, List.map_cons, dropFrontMatter, if_pos hfirst, List.map_append,
    dropWhile_fence_append hinner, List.map_cons, List.dropWhile_cons_of_neg (by simp [hlast]),
    List.drop_one, List.tail_cons]

theorem find?_skipped_append {skipped : List (List Char)}
    (hskipped : ∀ line ∈ skipped, IsSkipped line) (rest : List (List Char)) :
    ((skipped ++ rest).map trim).find? carriesSyntax = (rest.map trim).find? carriesSyntax := by
  have hnone : (skipped.map trim).find? carriesSyntax = none := by
    rw [List.find?_eq_none, List.forall_mem_map]
    intro line hline
    rw [carriesSyntax_trim_eq_false_iff.2 (hskipped line hline)]
    exact Bool.false_ne_true
  rw [List.map_append, List.find?_append, hnone, Option.none_or]

/-- Nothing in a preamble carries syntax. -/
theorem IsPreamble.find?_append (h : IsPreamble ls) {pieces : List (List Char)}
    (hfirst : trim line ≠ frontMatterFence) :
    (dropFrontMatter ((ls ++ line :: pieces).map trim)).find? carriesSyntax =
      ((line :: pieces).map trim).find? carriesSyntax := by
  cases h with
  | plain hskipped =>
    have hhead : dropFrontMatter ((ls ++ line :: pieces).map trim) =
        (ls ++ line :: pieces).map trim := by
      cases ls with
      | nil => exact dropFrontMatter_cons_of_ne hfirst
      | cons first rest =>
        exact dropFrontMatter_cons_of_ne (hskipped first List.mem_cons_self).ne_fence
    rw [hhead, find?_skipped_append hskipped]
  | @frontMatter first last inner skipped hopening hinner hlast hskipped =>
    have hcut : first :: inner ++ last :: skipped ++ line :: pieces =
        first :: inner ++ last :: (skipped ++ line :: pieces) := List.append_assoc _ _ _
    rw [hcut, dropFrontMatter_frontMatter hopening hinner hlast, find?_skipped_append hskipped]

theorem significantLine?_of_ne_fence {cs : List Char} {pieces : List (List Char)}
    (hsplit : splitAt (· == '\n') cs = line :: pieces) (hfirst : trim line ≠ frontMatterFence) :
    significantLine? cs = ((line :: pieces).map trim).find? carriesSyntax := by
  rw [significantLine?_eq, hsplit, List.map_cons, dropFrontMatter_cons_of_ne hfirst]

/-- **A preamble does not hide the line behind it.** -/
theorem IsPreamble.significantLine?_append (h : IsPreamble ls) (hlines : ∀ line ∈ ls, '\n' ∉ line)
    {cs : List Char} (hfirst : trim (cs.takeWhile (· ≠ '\n')) ≠ frontMatterFence) :
    significantLine? (ended ls ++ cs) = significantLine? cs := by
  obtain ⟨pieces, hsplit⟩ := exists_splitAt_eq_cons '\n' cs
  rw [significantLine?_eq, splitAt_ended_append hlines, hsplit, h.find?_append hfirst,
    significantLine?_of_ne_fence hsplit hfirst]

/-! ### Header lines -/

theorem hasForeignHeader_eq_true_iff {source : List Char} :
    hasForeignHeader source = true ↔
      ∃ header, significantLine? source = some header ∧ IsForeignHeader header := by
  rw [hasForeignHeader]
  cases significantLine? source with
  | none => simp
  | some header =>
    have hsome : (∃ found, some header = some found ∧ IsForeignHeader found) ↔
        IsForeignHeader header := by simp only [Option.some.injEq, exists_eq_left']
    rw [hsome, IsForeignHeader]
    cases hwords : words header with
    | nil => simp [hwords]
    | cons keyword rest =>
      dsimp only
      rw [hwords, List.any_eq_true]
      constructor
      · rintro ⟨name, hname, hkeyword⟩
        exact ⟨name, hname, congrArg some (beq_iff_eq.1 hkeyword).symm⟩
      · rintro ⟨name, hname, hkeyword⟩
        exact ⟨name, hname, beq_iff_eq.2 (Option.some.inj hkeyword).symm⟩

theorem isForeignHeader_trim : IsForeignHeader (trim line) ↔ IsForeignHeader line := by
  rw [IsForeignHeader, words_trim, IsForeignHeader]

/-- A header is neither a fence nor without syntax. -/
theorem IsForeignHeader.carriesSyntax (h : IsForeignHeader line) :
    trim line ≠ frontMatterFence ∧ carriesSyntax (trim line) = true := by
  obtain ⟨name, hname, hhead⟩ := h
  have hfirst : ∀ name ∈ foreignHeaders,
      name.toList.head? ≠ some '-' ∧ name.toList.head? ≠ some '%' := by decide
  rw [← words_trim] at hhead
  constructor
  · intro hfence
    obtain ⟨rest, hrest⟩ := head?_words_cons (c := '-') (by decide) ['-', '-']
    rw [hfence] at hhead
    have hword : name.toList = '-' :: rest := Option.some.inj (hhead.symm.trans hrest)
    exact (hfirst name hname).1 (by rw [hword]; rfl)
  · by_contra hskipped
    rw [Bool.not_eq_true, carriesSyntax_trim_eq_false_iff] at hskipped
    obtain hblank | ⟨rest, hcomment⟩ := hskipped
    · rw [hblank] at hhead
      cases hhead
    · rw [← hcomment] at hhead
      obtain ⟨more, hmore⟩ := head?_words_cons (c := '%') (by decide) ('%' :: rest)
      have hword : name.toList = '%' :: more := Option.some.inj (hhead.symm.trans hmore)
      exact (hfirst name hname).2 (by rw [hword]; rfl)

/-! ### Foreign diagrams -/

/-- A header line with its end and what is behind it. -/
theorem hasForeignHeader_header {rest : List Char} (hline : '\n' ∉ line) (h : IsForeignHeader line)
    (hrest : rest = [] ∨ ∃ behind, rest = '\n' :: behind) :
    line = (line ++ rest).takeWhile (· ≠ '\n') ∧ hasForeignHeader (line ++ rest) = true := by
  have hfirst : line = (line ++ rest).takeWhile (· ≠ '\n') := by
    rw [takeWhile_append]
    · intro c hc
      exact decide_eq_true fun heq => hline (heq ▸ hc)
    · obtain rfl | ⟨behind, rfl⟩ := hrest
      · exact stops_nil
      · exact stops_cons.2 (by simp)
  refine ⟨hfirst, ?_⟩
  obtain ⟨pieces, hsplit⟩ := exists_splitAt_eq_cons '\n' (line ++ rest)
  rw [← hfirst] at hsplit
  rw [hasForeignHeader_eq_true_iff]
  refine ⟨trim line, ?_, isForeignHeader_trim.2 h⟩
  rw [significantLine?_of_ne_fence hsplit h.carriesSyntax.1, List.map_cons,
    List.find?_cons_of_pos h.carriesSyntax.2]

/-- A front matter block that is not closed takes all lines. -/
theorem dropFrontMatter_unclosed {first : List Char} {inner : List (List Char)}
    (hfirst : trim first = frontMatterFence)
    (hinner : ∀ line ∈ inner, trim line ≠ frontMatterFence) :
    dropFrontMatter ((first :: inner).map trim) = [] := by
  have hnone := dropWhile_fence_append hinner []
  rw [List.append_nil, List.dropWhile_nil] at hnone
  rw [List.map_cons, dropFrontMatter, if_pos hfirst, hnone, List.drop_nil]

theorem exists_fence_or_forall (ls : List (List Char)) :
    (∀ line ∈ ls, trim line ≠ frontMatterFence) ∨
      ∃ inner last behind, ls = inner ++ last :: behind ∧
        (∀ line ∈ inner, trim line ≠ frontMatterFence) ∧ trim last = frontMatterFence := by
  induction ls with
  | nil => exact Or.inl (List.forall_mem_nil _)
  | cons line ls ih =>
    by_cases hline : trim line = frontMatterFence
    · exact Or.inr ⟨[], line, ls, rfl, List.forall_mem_nil _, hline⟩
    · obtain hnone | ⟨inner, last, behind, rfl, hinner, hlast⟩ := ih
      · exact Or.inl (List.forall_mem_cons.2 ⟨hline, hnone⟩)
      · exact Or.inr ⟨line :: inner, last, behind, rfl, List.forall_mem_cons.2 ⟨hline, hinner⟩,
          hlast⟩

theorem exists_skipped_of_find? {pieces : List (List Char)} {header : List Char}
    (h : (pieces.map trim).find? carriesSyntax = some header) :
    ∃ skipped line more, pieces = skipped ++ line :: more ∧ (∀ line ∈ skipped, IsSkipped line) ∧
      trim line = header := by
  rw [List.find?_map, Option.map_eq_some_iff] at h
  obtain ⟨line, hline, hheader⟩ := h
  obtain ⟨-, skipped, more, rfl, hskipped⟩ := List.find?_eq_some_iff_append.1 hline
  refine ⟨skipped, line, more, rfl, ?_, hheader⟩
  intro old hold
  apply carriesSyntax_trim_eq_false_iff.1
  simpa using hskipped old hold

/-- The line that carries syntax has a preamble in front of it. -/
theorem exists_preamble_of_significantLine? {source header : List Char}
    (h : significantLine? source = some header) :
    ∃ ls line more, splitAt (· == '\n') source = ls ++ line :: more ∧ IsPreamble ls ∧
      trim line = header := by
  obtain ⟨first, rest, hsplit⟩ := List.exists_cons_of_ne_nil (splitAt_ne_nil (· == '\n') source)
  rw [significantLine?_eq, hsplit] at h
  rw [hsplit]
  by_cases hfirst : trim first = frontMatterFence
  · obtain hnone | ⟨inner, last, behind, rfl, hinner, hlast⟩ := exists_fence_or_forall rest
    · rw [dropFrontMatter_unclosed hfirst hnone] at h
      cases h
    · rw [← List.cons_append, dropFrontMatter_frontMatter hfirst hinner hlast] at h
      obtain ⟨skipped, line, more, rfl, hskipped, hline⟩ := exists_skipped_of_find? h
      refine ⟨first :: inner ++ last :: skipped, line, more, ?_,
        .frontMatter hfirst hinner hlast hskipped, hline⟩
      rw [List.append_assoc, List.cons_append, List.cons_append]
  · rw [List.map_cons, dropFrontMatter_cons_of_ne hfirst, ← List.map_cons] at h
    obtain ⟨skipped, line, more, hpieces, hskipped, hline⟩ := exists_skipped_of_find? h
    exact ⟨skipped, line, more, hpieces, .plain hskipped, hline⟩

/-- **What a source with a foreign header looks like.** -/
theorem hasForeignHeader_iff {source : List Char} :
    hasForeignHeader source = true ↔
      ∃ ls header rest, IsPreamble ls ∧ (∀ line ∈ ls, '\n' ∉ line) ∧ '\n' ∉ header ∧
        IsForeignHeader header ∧ (rest = [] ∨ ∃ behind, rest = '\n' :: behind) ∧
          source = ended ls ++ (header ++ rest) := by
  constructor
  · intro h
    obtain ⟨_, hfound, hheader⟩ := hasForeignHeader_eq_true_iff.1 h
    obtain ⟨ls, header, more, hsplit, hpreamble, rfl⟩ := exists_preamble_of_significantLine? hfound
    have hlines : ∀ line ∈ ls ++ header :: more, '\n' ∉ line := by
      rw [← hsplit]
      exact fun line hline => notMem_of_mem_splitAt hline
    rw [List.forall_mem_append, List.forall_mem_cons] at hlines
    obtain ⟨rest, hjoin, hrest⟩ := exists_join_cons header more
    refine ⟨ls, header, rest, hpreamble, hlines.1, hlines.2.1, isForeignHeader_trim.1 hheader,
      hrest, ?_⟩
    calc source = join ['\n'] (ls ++ header :: more) := by rw [← hsplit, join_splitAt]
      _ = ended ls ++ (header ++ rest) := by rw [join_append_cons, hjoin]
  · rintro ⟨ls, header, rest, hpreamble, hlines, hfeed, hheader, hrest, rfl⟩
    obtain ⟨hfirst, hforeign⟩ := hasForeignHeader_header hfeed hheader hrest
    have hne : trim ((header ++ rest).takeWhile (· ≠ '\n')) ≠ frontMatterFence := by
      rw [← hfirst]
      exact hheader.carriesSyntax.1
    rw [hasForeignHeader_eq_true_iff] at hforeign ⊢
    rwa [hpreamble.significantLine?_append hlines hne]

/-- **A foreign diagram stays as it is, and a preamble does not hide its header.** The preamble may
have a front matter block, comments and blank lines. Behind it the header decides, whatever follows
it; and a text behind it that does not start with a fence has a foreign header with the preamble
exactly if it has one without. -/
theorem foreign_behind_preamble {ls : List (List Char)} (hpreamble : IsPreamble ls)
    (hlines : ∀ line ∈ ls, '\n' ∉ line) :
    (∀ header rest, '\n' ∉ header → IsForeignHeader header →
      (rest = [] ∨ ∃ behind, rest = '\n' :: behind) →
        Flow.repair (ended ls ++ (header ++ rest)) = ended ls ++ (header ++ rest)) ∧
      ∀ cs, trim (cs.takeWhile (· ≠ '\n')) ≠ frontMatterFence →
        hasForeignHeader (ended ls ++ cs) = hasForeignHeader cs := by
  constructor
  · intro header rest hfeed hheader hrest
    have hforeign : hasForeignHeader (ended ls ++ (header ++ rest)) = true :=
      hasForeignHeader_iff.2 ⟨ls, header, rest, hpreamble, hlines, hfeed, hheader, hrest, rfl⟩
    rw [Flow.repair, if_pos hforeign]
  · intro cs hfirst
    rw [hasForeignHeader, hpreamble.significantLine?_append hlines hfirst, hasForeignHeader]

/-- A front matter block with carriage returns and indented fences, a comment, and a line with a
no-break space. -/
def mixedPreamble : List (List Char) :=
  ["--- \r", "title: a", "%% b", "\t---\r", " %% c", "\u00a0"].map String.toList

theorem foreign_behind_preamble_erDiagram :
    IsPreamble mixedPreamble ∧ (∀ line ∈ mixedPreamble, '\n' ∉ line) ∧
      IsForeignHeader " erDiagram\r".toList ∧
      Flow.repair (ended mixedPreamble ++ (" erDiagram\r".toList ++ "\n---\nA[a/b]".toList)) =
        ended mixedPreamble ++ (" erDiagram\r".toList ++ "\n---\nA[a/b]".toList) ∧
      hasForeignHeader (ended mixedPreamble ++ "graph TD\npie".toList) =
        hasForeignHeader "graph TD\npie".toList := by
  have hpreamble : IsPreamble ("--- \r".toList :: ["title: a".toList, "%% b".toList] ++
      "\t---\r".toList :: [" %% c".toList, "\u00a0".toList]) :=
    .frontMatter (by decide) (by decide) (by decide) (by decide)
  have hlines : ∀ line ∈ mixedPreamble, '\n' ∉ line := by decide
  have hheader : IsForeignHeader " erDiagram\r".toList := ⟨"erDiagram", by decide, by decide⟩
  obtain ⟨hkept, hsame⟩ := foreign_behind_preamble hpreamble hlines
  exact ⟨hpreamble, hlines, hheader, hkept _ _ (by decide) hheader (Or.inr ⟨_, rfl⟩),
    hsame _ (by decide)⟩

end DiagramDoc
