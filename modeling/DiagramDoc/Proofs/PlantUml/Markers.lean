import DiagramDoc.PlantUml.Document
import DiagramDoc.Proofs.Text.Lines
import DiagramDoc.Proofs.Text.Spans

/-! # Sources with markers

The document of a source is the source itself, without the white space around it, if one of its
lines starts with a marker. Otherwise it has one line in front and one behind. A marker is found
behind any white space, and trimming neither makes nor takes away a line that starts with one, so
documents are their own documents.
-/

namespace DiagramDoc.PlantUml

open Text

/-- A line that starts with a marker behind white space. -/
def IsStartLine (line : List Char) : Prop :=
  ∃ space rest, line = space ++ (startMarker ++ rest) ∧ ∀ c ∈ space, isSpace c = true

def HasStartLine (cs : List Char) : Prop := ∃ line ∈ lines cs, IsStartLine line

variable {line space cs : List Char}

/-! ### Lines that start with a marker -/

theorem isSpace_of_mem_startMarker {c : Char} (hc : c ∈ startMarker) : isSpace c = false := by
  have hplain : (startMarker.all fun c => !isSpace c) = true := by decide
  simpa using List.all_eq_true.1 hplain c hc

theorem isStart_eq_true_iff : isStart line = true ↔ IsStartLine line := by
  rw [isStart, List.isPrefixOf_iff_prefix, trimStart]
  constructor
  · rintro ⟨rest, hrest⟩
    refine ⟨line.takeWhile isSpace, rest, ?_, fun c => of_mem_takeWhile⟩
    rw [hrest, List.takeWhile_append_dropWhile]
  · rintro ⟨space, rest, rfl, hspace⟩
    have hstops : Stops isSpace (startMarker ++ rest) := stops_cons.2 (by decide)
    rw [dropWhile_append hspace hstops]
    exact List.prefix_append startMarker rest

theorem hasStart_eq_true_iff : hasStart cs = true ↔ HasStartLine cs := by
  simp only [hasStart, List.any_eq_true, isStart_eq_true_iff, HasStartLine]

theorem isStartLine_startuml : IsStartLine "@startuml".toList :=
  ⟨[], "uml".toList, by decide, List.forall_mem_nil _⟩

/-- A line of white space has no marker. -/
theorem not_isStartLine_of_forall (hline : ∀ c ∈ line, isSpace c = true) : ¬ IsStartLine line := by
  rintro ⟨space, rest, rfl, -⟩
  have hat : '@' ∈ startMarker := by decide
  exact absurd (hline '@' (List.mem_append_right space (List.mem_append_left rest hat))) (by decide)

theorem isStartLine_of_append (hspace : ∀ c ∈ space, isSpace c = true) :
    IsStartLine (space ++ line) ↔ IsStartLine line := by
  rw [← isStart_eq_true_iff, ← isStart_eq_true_iff, isStart, isStart, trimStart,
    List.dropWhile_append_of_pos hspace, trimStart]

/-- A marker has no white space in it, so white space behind a line does not complete one. -/
theorem isStartLine_append (hspace : ∀ c ∈ space, isSpace c = true) :
    IsStartLine (line ++ space) ↔ IsStartLine line := by
  constructor
  · intro h
    have hstarts := isStart_eq_true_iff.2 h
    rw [isStart, List.isPrefixOf_iff_prefix, trimStart, List.dropWhile_append] at hstarts
    split at hstarts
    · rw [List.dropWhile_eq_nil_iff.2 hspace] at hstarts
      exact absurd (List.prefix_nil.1 hstarts) (by decide)
    · rw [← isStart_eq_true_iff, isStart, List.isPrefixOf_iff_prefix, trimStart]
      obtain hmarker | ⟨more, hmore⟩ :=
        List.prefix_or_prefix_of_prefix hstarts (List.prefix_append _ space)
      · exact hmarker
      · rw [← hmore, List.prefix_append_right_inj] at hstarts
        have hnone : more = [] := by
          refine List.eq_nil_iff_forall_not_mem.2 fun c hc => ?_
          have hplain := isSpace_of_mem_startMarker (hmore ▸ List.mem_append_right _ hc)
          rw [hspace c (hstarts.subset hc)] at hplain
          cases hplain
        rw [← hmore, hnone, List.append_nil]
  · rintro ⟨before, rest, rfl, hbefore⟩
    exact ⟨before, rest ++ space, by simp only [List.append_assoc], hbefore⟩

theorem isStartLine_dropReturn (line : List Char) :
    IsStartLine (dropReturn line) ↔ IsStartLine line := by
  rw [dropReturn]
  split
  · next hlast =>
    obtain ⟨init, rfl⟩ := List.getLast?_eq_some_iff.1 hlast
    have hreturn : ∀ c ∈ ['\r'], isSpace c = true := List.forall_mem_singleton.2 (by decide)
    rw [List.dropLast_concat, isStartLine_append hreturn]
  · exact Iff.rfl

/-! ### Texts with a marker -/

theorem hasStartLine_iff : HasStartLine cs ↔ ∃ line ∈ splitAt (· == '\n') cs, IsStartLine line :=
  exists_mem_lines_iff (not_isStartLine_of_forall (List.forall_mem_nil _)) isStartLine_dropReturn

theorem isSpace_of_mem_splitAt (hspace : ∀ c ∈ space, isSpace c = true)
    (hline : line ∈ splitAt (· == '\n') space) : ∀ c ∈ line, isSpace c = true :=
  fun c hc => hspace c (subset_of_mem_splitAt hline hc)

theorem not_exists_isStartLine {ls : List (List Char)} (hspace : ∀ c ∈ space, isSpace c = true)
    (hls : ls ⊆ splitAt (· == '\n') space) : ¬ ∃ line ∈ ls, IsStartLine line := by
  rintro ⟨line, hline, hstart⟩
  exact not_isStartLine_of_forall (isSpace_of_mem_splitAt hspace (hls hline)) hstart

/-- White space in front of a text adds lines without a marker and makes the first line longer. -/
theorem hasStartLine_of_append (hspace : ∀ c ∈ space, isSpace c = true) :
    HasStartLine (space ++ cs) ↔ HasStartLine cs := by
  obtain ⟨front, last, hfront⟩ := exists_splitAt_eq_concat (· == '\n') space
  obtain ⟨first, pieces, hcs⟩ := List.exists_cons_of_ne_nil (splitAt_ne_nil (· == '\n') cs)
  have hlast : ∀ c ∈ last, isSpace c = true := isSpace_of_mem_splitAt hspace (by simp [hfront])
  have hnone : ¬ ∃ line ∈ front, IsStartLine line :=
    not_exists_isStartLine hspace (hfront ▸ List.subset_append_left front [last])
  rw [hasStartLine_iff, hasStartLine_iff, exists_mem_splitAt_append, hfront, hcs,
    List.dropLast_concat, List.getLastD_concat, List.headD_cons, List.tail_cons,
    List.exists_mem_cons_iff, isStartLine_of_append hlast, or_iff_right hnone]

/-- White space behind a text makes the last line longer and adds lines without a marker. -/
theorem hasStartLine_append (hspace : ∀ c ∈ space, isSpace c = true) :
    HasStartLine (cs ++ space) ↔ HasStartLine cs := by
  obtain ⟨front, last, hcs⟩ := exists_splitAt_eq_concat (· == '\n') cs
  obtain ⟨first, pieces, hpieces⟩ := List.exists_cons_of_ne_nil (splitAt_ne_nil (· == '\n') space)
  have hfirst : ∀ c ∈ first, isSpace c = true := isSpace_of_mem_splitAt hspace (by simp [hpieces])
  have hnone : ¬ ∃ line ∈ pieces, IsStartLine line :=
    not_exists_isStartLine hspace (hpieces ▸ List.subset_cons_self first pieces)
  rw [hasStartLine_iff, hasStartLine_iff, exists_mem_splitAt_append, hpieces, hcs,
    List.dropLast_concat, List.getLastD_concat, List.headD_cons, List.tail_cons,
    isStartLine_append hfirst, or_iff_left hnone]
  simp only [List.mem_append, List.mem_singleton, or_and_right, exists_or, exists_eq_left]

/-- **Trimming neither makes nor takes away a line that starts with a marker.** -/
theorem hasStartLine_trim (cs : List Char) : HasStartLine (trim cs) ↔ HasStartLine cs := by
  obtain ⟨before, behind, hcs, hbefore, hbehind⟩ := exists_eq_trim cs
  calc HasStartLine (trim cs) ↔ HasStartLine (before ++ (trim cs ++ behind)) := by
        rw [hasStartLine_of_append hbefore, hasStartLine_append hbehind]
    _ ↔ HasStartLine cs := by rw [← hcs]

/-! ### Documents -/

theorem toList_trimmed (s : String) : (trimmed s).toList = trim s.toList := by
  rw [trimmed, String.toList_ofList]

theorem document_eq_trimmed {s : String} (h : HasStartLine (trimmed s).toList) :
    document s = trimmed s := by
  rw [toList_trimmed] at h
  exact if_pos (hasStart_eq_true_iff.2 h)

theorem document_eq_wrapped {s : String} (h : ¬ HasStartLine (trimmed s).toList) :
    document s = "@startuml\n" ++ trimmed s ++ "\n@enduml" := by
  rw [toList_trimmed] at h
  exact if_neg fun hstart => h (hasStart_eq_true_iff.1 hstart)

/-- The lines of a source with a line in front and a line behind. -/
theorem splitAt_wrapped (s : String) :
    splitAt (· == '\n') ("@startuml\n" ++ s ++ "\n@enduml").toList =
      "@startuml".toList :: splitAt (· == '\n') s.toList ++ ["@enduml".toList] := by
  have hwrapped : ("@startuml\n" ++ s ++ "\n@enduml").toList =
      "@startuml".toList ++ '\n' :: (s.toList ++ '\n' :: "@enduml".toList) := by
    simp
  have hstart : splitAt (· == '\n') "@startuml".toList = ["@startuml".toList] := by decide
  have hend : splitAt (· == '\n') "@enduml".toList = ["@enduml".toList] := by decide
  rw [hwrapped, splitAt_append_cons (p := (· == '\n')) rfl,
    splitAt_append_cons (p := (· == '\n')) rfl, hstart, hend, List.singleton_append,
    List.cons_append]

theorem isTrimmed_document (s : String) : IsTrimmed (document s).toList := by
  by_cases h : HasStartLine (trimmed s).toList
  · rw [document_eq_trimmed h, toList_trimmed]
    exact isTrimmed_trim s.toList
  · rw [document_eq_wrapped h]
    constructor
    · rw [String.append_assoc, String.toList_append]
      exact stops_cons.2 (by decide)
    · rw [String.toList_append]
      have hlast : "\n@enduml".toList = "\n@endum".toList ++ ['l'] := by decide
      rw [hlast, ← List.append_assoc, List.getLast?_concat]
      simp [isSpace]

theorem hasStartLine_document (s : String) : HasStartLine (document s).toList := by
  by_cases h : HasStartLine (trimmed s).toList
  · rwa [document_eq_trimmed h]
  · rw [document_eq_wrapped h, hasStartLine_iff, splitAt_wrapped]
    exact ⟨_, List.mem_cons_self, isStartLine_startuml⟩

theorem trimmed_infix_document (s : String) : (trimmed s).toList <:+: (document s).toList := by
  by_cases h : HasStartLine (trimmed s).toList
  · rw [document_eq_trimmed h]
  · rw [document_eq_wrapped h, String.toList_append, String.toList_append]
    exact List.infix_append _ _ _

theorem document_congr {s t : String} (h : trimmed s = trimmed t) : document s = document t := by
  have htrim : trim s.toList = trim t.toList := by rw [← toList_trimmed, h, toList_trimmed]
  rw [document, document, htrim]

theorem document_document (s : String) : document (document s) = document s := by
  have hsame : trimmed (document s) = document s := by
    rw [trimmed, (isTrimmed_document s).trim_eq, String.ofList_toList]
  rw [document_eq_trimmed, hsame]
  rw [hsame]
  exact hasStartLine_document s

/-- The document of a source is without white space at its ends, has a line that starts with a
marker, and holds the trimmed source. It is the trimmed source exactly if one of the source's lines
starts with a marker, be they read before or after trimming; otherwise it has the lines of the
trimmed source between one line in front and one behind. -/
structure IsDocumentOf (source marked : String) : Prop where
  isTrimmed : IsTrimmed marked.toList
  hasStartLine : HasStartLine marked.toList
  holds : (trimmed source).toList <:+: marked.toList
  eq_trimmed_iff : marked = trimmed source ↔ HasStartLine (trimmed source).toList
  trimmed_iff : HasStartLine (trimmed source).toList ↔ HasStartLine source.toList
  wrapped : ¬ HasStartLine (trimmed source).toList →
    marked = "@startuml\n" ++ trimmed source ++ "\n@enduml" ∧
      splitAt (· == '\n') marked.toList =
        "@startuml".toList :: splitAt (· == '\n') (trimmed source).toList ++ ["@enduml".toList]

/-- **Markers are added exactly where they are needed.** The document of a document is the document
itself, and white space around a source does not matter. -/
theorem document_adds_markers :
    (∀ s, document (document s) = document s) ∧
    (∀ before s behind : String, (∀ c ∈ before.toList, isSpace c = true) →
      (∀ c ∈ behind.toList, isSpace c = true) → document (before ++ s ++ behind) = document s) ∧
    ∀ s, IsDocumentOf s (document s) := by
  refine ⟨document_document, fun before s behind hbefore hbehind => document_congr ?_,
    fun s => ?_⟩
  · rw [trimmed, trimmed, String.toList_append, String.toList_append,
      trim_append_of_forall hbehind, trim_of_append hbefore]
  · constructor
    case isTrimmed => exact isTrimmed_document s
    case hasStartLine => exact hasStartLine_document s
    case holds => exact trimmed_infix_document s
    case eq_trimmed_iff =>
      refine ⟨fun h => ?_, document_eq_trimmed⟩
      rw [← h]
      exact hasStartLine_document s
    case trimmed_iff => rw [toList_trimmed, hasStartLine_trim]
    case wrapped =>
      intro h
      rw [document_eq_wrapped h, splitAt_wrapped]
      exact ⟨rfl, rfl⟩

/-- The marker behind a carriage return does not start a line. -/
theorem document_adds_markers_strayReturn :
    document (" \n\u00a0" ++ "A\r@startuml" ++ "\r\n") = document "A\r@startuml" ∧
      ¬ HasStartLine (trimmed "A\r@startuml").toList ∧
      document "A\r@startuml" = "@startuml\nA\r@startuml\n@enduml" ∧
      splitAt (· == '\n') (document "A\r@startuml").toList =
        ["@startuml", "A\r@startuml", "@enduml"].map String.toList := by
  obtain ⟨-, hspace, hmarked⟩ := document_adds_markers
  have hstart : ¬ HasStartLine (trimmed "A\r@startuml").toList := by
    rw [← hasStart_eq_true_iff]
    decide
  obtain ⟨hwrapped, hlines⟩ := (hmarked "A\r@startuml").wrapped hstart
  have hbefore : ∀ c ∈ " \n\u00a0".toList, isSpace c = true := List.all_eq_true.1 (by decide)
  have hbehind : ∀ c ∈ "\r\n".toList, isSpace c = true := List.all_eq_true.1 (by decide)
  refine ⟨hspace _ _ _ hbefore hbehind, hstart, ?_, ?_⟩
  · rw [hwrapped]
    decide
  · rw [hlines]
    decide

end DiagramDoc.PlantUml
