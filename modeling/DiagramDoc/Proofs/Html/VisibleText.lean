import DiagramDoc.Proofs.Html.Entities

/-! # Visible text

What a reader sees of markup is the text between its tags, with characters in the place of entities.
Markup that escapes its texts shows them as they were, whatever tags they spell. White space in
front of markup and behind it is outside of tags and completes no entity, so it can be taken off
before or after.
-/

namespace DiagramDoc.Html

open Text

/-! ### Text outside of tags -/

/-- The characters outside of tags; a tag ends at its first closing angle bracket. -/
def outsideTags (inTag : Bool) : List Char → List Char
  | [] => []
  | c :: cs =>
    if inTag then outsideTags (c ≠ '>') cs
    else if c = '<' then outsideTags true cs
    else c :: outsideTags false cs

/-- What markup shows: its text without tags, and with characters for its entities. -/
def visibleText (html : String) : String :=
  String.ofList (decode (outsideTags false html.toList))

example : visibleText "<a href=\"&gt;\">a &lt;</a> b" = "a < b" := by decide

variable {cs markup more text text' : List Char} {c : Char}

theorem outsideTags_append_of_notMem (h : '<' ∉ cs) (rest : List Char) :
    outsideTags false (cs ++ rest) = cs ++ outsideTags false rest := by
  induction cs with
  | nil => rfl
  | cons c cs ih =>
    rw [List.mem_cons, not_or] at h
    rw [List.cons_append, outsideTags, if_neg Bool.false_ne_true, if_neg (Ne.symm h.1), ih h.2,
      List.cons_append]

theorem outsideTags_tag (h : '>' ∉ cs) (rest : List Char) :
    outsideTags true (cs ++ '>' :: rest) = outsideTags false rest := by
  induction cs with
  | nil => rfl
  | cons c cs ih =>
    rw [List.mem_cons, not_or] at h
    rw [List.cons_append, outsideTags, if_pos rfl, decide_eq_true (Ne.symm h.1), ih h.2]

/-- Markup that is between tags at both ends and shows a text, whatever follows it. -/
def Displays (markup text : List Char) : Prop :=
  ∀ rest, outsideTags false (markup ++ rest) = text.flatMap escapeChar ++ outsideTags false rest

theorem displays_nil : Displays [] [] := fun _ => rfl

theorem Displays.append (h : Displays markup text) (hmore : Displays more text') :
    Displays (markup ++ more) (text ++ text') := by
  intro rest
  rw [List.append_assoc, h, hmore, List.flatMap_append, List.append_assoc]

theorem displays_tag {inner : List Char} (h : '>' ∉ inner) :
    Displays ('<' :: inner ++ ['>']) [] := by
  intro rest
  have hopen : outsideTags false ('<' :: inner ++ ['>'] ++ rest) =
      outsideTags true (inner ++ '>' :: rest) := by
    rw [List.append_assoc, List.cons_append, outsideTags, if_neg Bool.false_ne_true, if_pos rfl,
      List.singleton_append]
  rw [hopen, outsideTags_tag h, List.flatMap_nil, List.nil_append]

theorem displays_escape (s : String) : Displays (escape s).toList s.toList := by
  intro rest
  have hless : '<' ∉ (escape s).toList := (isEscaped_escape s).notMem '<' (by decide)
  rw [outsideTags_append_of_notMem hless, escape, String.toList_ofList]

theorem Displays.decode_outsideTags {html text : String} (h : Displays html.toList text.toList) :
    decode (outsideTags false html.toList) = text.toList := by
  have hall := h []
  rw [List.append_nil, outsideTags, List.append_nil] at hall
  rw [hall, decode_flatMap_escapeChar]

/-! ### White space at the ends -/

theorem notMem_of_forall_isSpace {space : List Char} (hspace : ∀ d ∈ space, isSpace d = true)
    (hc : isSpace c = false) : c ∉ space := by
  intro hmem
  rw [hspace c hmem] at hc
  cases hc

theorem exists_outsideTags_append {space : List Char} (hspace : ∀ c ∈ space, isSpace c = true)
    (inTag : Bool) (cs : List Char) :
    ∃ kept, outsideTags inTag (cs ++ space) = outsideTags inTag cs ++ kept ∧
      ∀ c ∈ kept, isSpace c = true := by
  induction cs generalizing inTag with
  | nil =>
    cases inTag with
    | false =>
      have hless : '<' ∉ space := notMem_of_forall_isSpace hspace (by decide)
      have hall := outsideTags_append_of_notMem hless []
      refine ⟨space, ?_, hspace⟩
      rwa [List.append_nil, outsideTags, List.append_nil] at hall
    | true =>
      -- In a tag that does not end, white space is a part of the tag.
      refine ⟨[], ?_, List.forall_mem_nil _⟩
      induction space with
      | nil => rfl
      | cons c space ih =>
        rw [List.forall_mem_cons] at hspace
        have hc : c ≠ '>' := by
          rintro rfl
          exact absurd hspace.1 (by decide)
        have hnext : outsideTags true (c :: space) = outsideTags true space := by
          rw [outsideTags, if_pos rfl, decide_eq_true hc]
        rw [List.nil_append, hnext]
        exact ih hspace.2
  | cons c cs ih =>
    rw [List.cons_append, outsideTags, outsideTags]
    split
    · exact ih _
    · split
      · exact ih true
      · obtain ⟨kept, hkept, hall⟩ := ih false
        exact ⟨kept, by rw [hkept, List.cons_append], hall⟩

theorem trim_outsideTags_trim (cs : List Char) :
    trim (outsideTags false (trim cs)) = trim (outsideTags false cs) := by
  obtain ⟨before, behind, hcs, hbefore, hbehind⟩ := exists_eq_trim cs
  obtain ⟨kept, hkept, hspace⟩ := exists_outsideTags_append hbehind false (trim cs)
  have hless : '<' ∉ before := notMem_of_forall_isSpace hbefore (by decide)
  calc trim (outsideTags false (trim cs))
      = trim (before ++ (outsideTags false (trim cs) ++ kept)) := by
        rw [trim_of_append hbefore, trim_append_of_forall hspace]
    _ = trim (outsideTags false (before ++ (trim cs ++ behind))) := by
        rw [outsideTags_append_of_notMem hless, hkept]
    _ = trim (outsideTags false cs) := by rw [← hcs]

/-- White space at the end of a text does not complete a name in it. -/
theorem concat_ne_append {name : List Char} (hc : isSpace c = true)
    (hname : name.any isSpace = false) (h : ∀ rest, cs ≠ name ++ rest) (rest : List Char) :
    cs ++ [c] ≠ name ++ rest := by
  intro heq
  obtain ⟨behind, hbehind, hlast⟩ | ⟨behind, hbehind, -⟩ := List.append_eq_append_iff.1 heq
  · cases behind with
    | nil => exact h [] (by rw [hbehind, List.append_nil, List.append_nil])
    | cons d behind =>
      have hmem : d ∈ name := hbehind ▸ List.mem_append_right cs List.mem_cons_self
      obtain rfl : c = d := (List.cons.inj hlast).1
      exact List.any_eq_false.1 hname c hmem hc
  · exact h behind hbehind

theorem decode_concat (hc : isSpace c = true) (cs : List Char) :
    decode (cs ++ [c]) = decode cs ++ [c] := by
  have hkeep (name : List Char) (hname : name.any isSpace = false) {d : Char} {cs : List Char}
      (h : ∀ rest, d = '&' → cs = name ++ rest → False) :
      ∀ rest, d = '&' → cs ++ [c] = name ++ rest → False := by
    intro rest hd
    exact concat_ne_append hc hname (fun rest => h rest hd) rest
  fun_induction decode cs with
  | case1 cs ih | case2 cs ih | case3 cs ih | case4 cs ih | case5 cs ih =>
    simp only [List.cons_append, decode, ih]
  -- No name was read here, and white space completes none, since no name has any in it.
  | case6 d cs hamp hlt hgt hquot hsingle ih =>
    rw [List.cons_append, decode, ih, List.cons_append]
    · exact hkeep "amp;".toList (by decide) hamp
    · exact hkeep "lt;".toList (by decide) hlt
    · exact hkeep "gt;".toList (by decide) hgt
    · exact hkeep "quot;".toList (by decide) hquot
    · exact hkeep "#x27;".toList (by decide) hsingle
  | case7 =>
    have hand : c ≠ '&' := by
      rintro rfl
      exact absurd hc (by decide)
    rw [List.nil_append, decode_cons hand]
    rfl

theorem decode_append_of_forall {space : List Char} (hspace : ∀ c ∈ space, isSpace c = true)
    (cs : List Char) : decode (cs ++ space) = decode cs ++ space := by
  induction space using List.reverseRecOn with
  | nil => rw [List.append_nil, List.append_nil]
  | append_singleton space c ih =>
    rw [List.forall_mem_append, List.forall_mem_singleton] at hspace
    rw [← List.append_assoc, decode_concat hspace.2, ih hspace.1, List.append_assoc]

theorem decode_of_append {space : List Char} (hspace : ∀ c ∈ space, isSpace c = true)
    (cs : List Char) : decode (space ++ cs) = space ++ decode cs := by
  induction space with
  | nil => rfl
  | cons c space ih =>
    rw [List.forall_mem_cons] at hspace
    have hc : c ≠ '&' := by
      rintro rfl
      exact absurd hspace.1 (by decide)
    rw [List.cons_append, decode_cons hc, ih hspace.2, List.cons_append]

theorem trim_decode_trim (cs : List Char) : trim (decode (trim cs)) = trim (decode cs) := by
  obtain ⟨before, behind, hcs, hbefore, hbehind⟩ := exists_eq_trim cs
  calc trim (decode (trim cs))
      = trim (before ++ (decode (trim cs) ++ behind)) := by
        rw [trim_of_append hbefore, trim_append_of_forall hbehind]
    _ = trim (decode (before ++ (trim cs ++ behind))) := by
        rw [decode_of_append hbefore, decode_append_of_forall hbehind]
    _ = trim (decode cs) := by rw [← hcs]

/-- **Trimmed markup shows the trimmed text**, up to white space at the ends. -/
theorem Displays.trimmed_visibleText {html text : String}
    (h : Displays html.toList text.toList) :
    trimmed (visibleText (trimmed html)) = trimmed text := by
  have hchars : trim (decode (outsideTags false (trim html.toList))) = trim text.toList := by
    rw [← trim_decode_trim, trim_outsideTags_trim, trim_decode_trim, h.decode_outsideTags]
  rw [trimmed, visibleText, trimmed, String.toList_ofList, String.toList_ofList, hchars,
    trimmed]

end DiagramDoc.Html
