import Mathlib.Data.List.TakeWhile
import DiagramDoc.Proofs.Diagram.Sequence.Passes

/-! # One pass over a sequence diagram

A line is put together from pieces in one of four ways, or in none of them, and each way says what
becomes of its pieces. The readers of lines find exactly these ways, and no pass changes what a
later one finds, so the passes do together what one walk over the lines does.
-/

namespace DiagramDoc.Sequence

open Text Unicode

/-! ### Bodies -/

/-- A body with its text between the blanks in front and the blanks and carriage returns behind. -/
structure IsCut (lead text trail : List Char) : Prop where
  lead : IsBlanks lead
  first : Stops isBlank text
  last : ∀ c ∈ text.getLast?, Body.isTrail c = false
  trail : ∀ c ∈ trail, Body.isTrail c = true

/-- A body and what becomes of it: quotes around its text if that has a trigger and is not quoted
already, with each quote inside replaced. -/
inductive Requotes (triggers innerQuote : List Char) : List Char → List Char → Prop
  | quoted {lead text trail : List Char} (hcut : IsCut lead text trail)
      (hbare : isQuoted text = false) (htrigger : ∃ c ∈ text, c ∈ triggers) :
      Requotes triggers innerQuote (lead ++ text ++ trail)
        ([' ', '"'] ++ text.flatMap (fun c => if c = '"' then innerQuote else [c]) ++ ['"'] ++
          trail)
  | kept {lead text trail : List Char} (hcut : IsCut lead text trail)
      (hkeep : isQuoted text = true ∨ ∀ c ∈ text, c ∉ triggers) :
      Requotes triggers innerQuote (lead ++ text ++ trail) (lead ++ text ++ trail)

theorem Body.isCut_ofChars (body : List Char) :
    IsCut (ofChars body).lead (ofChars body).text (ofChars body).trail := by
  have hglue : (ofChars body).text ++ (ofChars body).trail = body.dropWhile isBlank :=
    dropEndWhile_append_takeEndWhile isTrail (body.dropWhile isBlank)
  refine ⟨fun c hc => of_mem_takeWhile hc, ?_, ?_, fun c hc => of_mem_takeEndWhile hc⟩
  · intro c hc
    apply stops_dropWhile body c
    rw [← hglue, List.head?_append, Option.mem_def.1 hc]
    rfl
  · intro c hc
    rw [ofChars, dropEndWhile, List.getLast?_reverse] at hc
    exact stops_dropWhile _ c hc

variable {lead text trail : List Char}

theorem IsCut.ofChars (h : IsCut lead text trail) (hne : text ≠ []) :
    Body.ofChars (lead ++ text ++ trail) = ⟨lead, text, trail⟩ := by
  obtain ⟨init, c, heq⟩ : ∃ init c, text = init ++ [c] :=
    ⟨_, _, (List.dropLast_append_getLast hne).symm⟩
  have hlast : Body.isTrail c = false := h.last c (by rw [heq, List.getLast?_concat]; rfl)
  have hstops : Stops isBlank (text ++ trail) := by
    obtain ⟨d, text, rfl⟩ := List.exists_cons_of_ne_nil hne
    exact stops_cons.2 (stops_cons.1 h.first)
  have hend : dropEndWhile Body.isTrail (text ++ trail) = text := by
    rw [heq, List.append_assoc, List.singleton_append, dropEndWhile_append init hlast h.trail]
  have hglue := dropEndWhile_append_takeEndWhile Body.isTrail (text ++ trail)
  rw [hend, List.append_cancel_left_eq] at hglue
  rw [List.append_assoc, Body.ofChars, takeWhile_append h.lead hstops,
    dropWhile_append h.lead hstops, hend, hglue]

/-- Where the text is empty the blanks may be cut elsewhere, but the text is still empty. -/
theorem IsCut.text_ofChars (h : IsCut lead text trail) :
    (Body.ofChars (lead ++ text ++ trail)).text = text := by
  by_cases hne : text = []
  · subst hne
    have hall : ∀ c ∈ lead ++ [] ++ trail, Body.isTrail c = true := by
      intro c hc
      rw [List.append_nil] at hc
      rcases List.mem_append.1 hc with hc | hc
      · rw [Body.isTrail, h.lead c hc, Bool.true_or]
      · exact h.trail c hc
    rw [Body.ofChars, dropEndWhile, List.reverse_eq_nil_iff, List.dropWhile_eq_nil_iff]
    intro c hc
    exact hall c ((List.dropWhile_suffix _).subset (List.mem_reverse.1 hc))
  · rw [h.ofChars hne]

theorem requotes_iff (q : Quoting) {body out : List Char} :
    Requotes q.triggers q.innerQuote body out ↔ out = q.apply body := by
  constructor
  · intro h
    cases h with
    | @quoted lead text trail hcut hbare htrigger =>
      obtain ⟨c, hc, hmem⟩ := htrigger
      have hany : text.any (q.triggers.contains ·) = true :=
        List.any_eq_true.2 ⟨c, hc, List.contains_iff_mem.2 hmem⟩
      rw [Quoting.apply, hcut.ofChars (List.ne_nil_of_mem hc)]
      simp only [hbare, hany]
      rfl
    | @kept lead text trail hcut hkeep =>
      rw [Quoting.apply, hcut.text_ofChars, if_pos]
      rcases hkeep with hquoted | hnone
      · rw [hquoted, Bool.true_or]
      · rw [Bool.or_eq_true, Bool.not_eq_true', List.any_eq_false]
        right
        intro c hc hmem
        exact hnone c hc (List.contains_iff_mem.1 hmem)
  · rintro rfl
    obtain ⟨lead, text, trail, heq⟩ : ∃ lead text trail, Body.ofChars body = ⟨lead, text, trail⟩ :=
      ⟨_, _, _, rfl⟩
    have hcut := Body.isCut_ofChars body
    have hglue := Body.text_append_trail body
    rw [heq] at hcut hglue
    dsimp only at hcut hglue
    rw [← List.append_assoc] at hglue
    rw [Quoting.apply, heq]
    dsimp only
    split
    · next hkeep =>
      rw [← hglue]
      refine .kept hcut ?_
      rw [Bool.or_eq_true, Bool.not_eq_true', List.any_eq_false] at hkeep
      refine hkeep.imp_right fun hnone c hc hmem => hnone c hc (List.contains_iff_mem.2 hmem)
    · next hkeep =>
      rw [Bool.not_eq_true, Bool.or_eq_false_iff, Bool.not_eq_false', List.any_eq_true] at hkeep
      obtain ⟨hbare, c, hc, hmem⟩ := hkeep
      conv => lhs; rw [← hglue]
      exact .quoted hcut hbare ⟨c, hc, List.contains_iff_mem.1 hmem⟩

/-! ### Names -/

/-- A name and what becomes of it: an underscore at its end if it is reserved, and nothing
otherwise. -/
inductive Renames (reserved : ReservedWords) : List Char → List Char → Prop
  | marked {name : List Char} (h : reserved.contains (String.ofList name) = true) :
      Renames reserved name (name ++ ['_'])
  | kept {name : List Char} (h : reserved.contains (String.ofList name) = false) :
      Renames reserved name name

theorem renames_iff {reserved : ReservedWords} {name out : List Char} :
    Renames reserved name out ↔ out = rename reserved name := by
  rw [rename]
  constructor
  · intro h
    cases h with
    | marked h => rw [if_pos h]
    | kept h => rw [if_neg (Bool.eq_false_iff.1 h)]
  · rintro rfl
    split
    · next h => exact .marked h
    · next h => exact .kept (Bool.eq_false_iff.2 h)

/-! ### Lines -/

/-- A line and what one pass makes of it: a declaration, a message, a line that opens as a message
and is none, a note, or anything else. -/
inductive Rewrites (reserved : ReservedWords) : List Char → List Char → Prop
  | declaration {d : Declaration} {name : List Char} (h : d.IsWritten)
      (hname : Renames reserved d.name name) :
      Rewrites reserved d.text { d with name := name }.text
  | message {m : Message} {sender receiver body : List Char} (h : m.IsShape)
      (hsender : Renames reserved m.sender sender)
      (hreceiver : Renames reserved m.receiver receiver)
      (hbody : Requotes ['(', ')', '{', '}', '[', ']', '<', '>'] ['\''] m.body body) :
      Rewrites reserved m.text
        { m with sender := sender, receiver := receiver, body := body }.text
  | opening {o : Opening} {sender : List Char} (h : o.IsWritten)
      (hnone : ∀ m : Message, m.IsShape → m.text ≠ o.text)
      (hsender : Renames reserved o.sender sender) :
      Rewrites reserved o.text { o with sender := sender }.text
  | note {n : Note} {body : List Char} (h : n.IsShape)
      (hbody : Requotes ['(', ')', '{', '}', '[', ']', '<', '>', '&', ';', '#'] ['\\', '"']
        n.body body) :
      Rewrites reserved n.text { n with body := body }.text
  | other {line : List Char} (hdeclaration : ∀ d : Declaration, d.IsWritten → d.text ≠ line)
      (hopening : ∀ o : Opening, o.IsWritten → o.text ≠ line)
      (hnote : ∀ n : Note, n.IsShape → n.text ≠ line) : Rewrites reserved line line

/-- One pass over a line. -/
def rewriteLine (reserved : ReservedWords) (line : List Char) : List Char :=
  match Declaration.parse? line with
  | some d => { d with name := rename reserved d.name }.text
  | none =>
    match Message.parse? line with
    | some m =>
      { m with
        sender := rename reserved m.sender
        receiver := rename reserved m.receiver
        body := Quoting.message.apply m.body }.text
    | none =>
      match Opening.parse? line with
      | some o => { o with sender := rename reserved o.sender }.text
      | none =>
        match Note.parse? line with
        | some n => { n with body := Quoting.note.apply n.body }.text
        | none => line

variable {reserved : ReservedWords}

theorem rewriteLine_text {l : Line} (h : l.IsShape) :
    rewriteLine reserved l.text = (l.repair reserved).text := by
  rw [rewriteLine, l.declaration_parse? h, l.message_parse? h, l.opening_parse? h, l.note_parse? h]
  cases l <;> rfl

/-- A reader that finds exactly the records of a shape finds none where the line is not the text of
one. -/
theorem parse?_eq_none_iff {α : Type} {parse? : List Char → Option α} {text : α → List Char}
    {IsShape : α → Prop} (hsound : ∀ {line a}, parse? line = some a → line = text a ∧ IsShape a)
    (hcomplete : ∀ {a}, IsShape a → parse? (text a) = some a) {line : List Char} :
    parse? line = none ↔ ∀ a, IsShape a → text a ≠ line := by
  constructor
  · rintro h a ha rfl
    rw [hcomplete ha] at h
    cases h
  · intro h
    rw [Option.eq_none_iff_forall_ne_some]
    intro a ha
    obtain ⟨htext, hshape⟩ := hsound ha
    exact h a hshape htext.symm

theorem Line.isShape_opening_iff {o : Opening} : (Line.opening o).IsShape ↔
    o.IsWritten ∧ ∀ m : Message, m.IsShape → m.text ≠ o.text :=
  and_congr Opening.isWritten_iff.symm
    (parse?_eq_none_iff Message.isShape_of_parse? Message.parse?_text)

theorem Line.isShape_other_iff {chars : List Char} : (Line.other chars).IsShape ↔
    (∀ d : Declaration, d.IsWritten → d.text ≠ chars) ∧
      (∀ o : Opening, o.IsWritten → o.text ≠ chars) ∧
      ∀ n : Note, n.IsShape → n.text ≠ chars := by
  simp only [Declaration.isWritten_iff, Opening.isWritten_iff]
  exact and_congr (parse?_eq_none_iff Declaration.isShape_of_parse? Declaration.parse?_text)
    (and_congr (parse?_eq_none_iff Opening.isShape_of_parse? Opening.parse?_text)
      (parse?_eq_none_iff Note.isShape_of_parse? Note.parse?_text))

theorem Line.rewrites (l : Line) (h : l.IsShape) :
    Rewrites reserved l.text (l.repair reserved).text := by
  cases l with
  | declaration d => exact .declaration (Declaration.isWritten_iff.2 h) (renames_iff.2 rfl)
  | message m =>
    exact .message h (renames_iff.2 rfl) (renames_iff.2 rfl) ((requotes_iff .message).2 rfl)
  | opening o =>
    obtain ⟨hwritten, hnone⟩ := Line.isShape_opening_iff.1 h
    exact .opening hwritten hnone (renames_iff.2 rfl)
  | note n => exact .note h ((requotes_iff .note).2 rfl)
  | other chars =>
    obtain ⟨hdeclaration, hopening, hnote⟩ := Line.isShape_other_iff.1 h
    exact .other hdeclaration hopening hnote

theorem Rewrites.eq_rewriteLine {line out : List Char} (h : Rewrites reserved line out) :
    rewriteLine reserved line = out := by
  cases h with
  | @declaration d name h hname =>
    rw [renames_iff.1 hname]
    exact rewriteLine_text (l := .declaration d) (Declaration.isWritten_iff.1 h)
  | @message m sender receiver body h hsender hreceiver hbody =>
    rw [renames_iff.1 hsender, renames_iff.1 hreceiver, (requotes_iff .message).1 hbody]
    exact rewriteLine_text (l := .message m) h
  | @opening o sender h hnone hsender =>
    rw [renames_iff.1 hsender]
    exact rewriteLine_text (l := .opening o) (Line.isShape_opening_iff.2 ⟨h, hnone⟩)
  | @note n body h hbody =>
    rw [(requotes_iff .note).1 hbody]
    exact rewriteLine_text (l := .note n) h
  | @other line hdeclaration hopening hnote =>
    exact rewriteLine_text (l := .other line)
      (Line.isShape_other_iff.2 ⟨hdeclaration, hopening, hnote⟩)

/-- **The passes are one pass.** It goes line by line, and what it makes of a line is what the way
in which the line is put together calls for, and nothing else. -/
theorem repair_eq_mapLines_rewriteLine (reserved : ReservedWords) :
    (∀ source, repair reserved source = mapLines (rewriteLine reserved) source) ∧
      ∀ line out, rewriteLine reserved line = out ↔ Rewrites reserved line out := by
  constructor
  · intro source
    rw [repair_eq_mapLines]
    apply mapLines_congr
    intro line _
    obtain ⟨l, rfl, hl⟩ := Line.exists_isShape line
    rw [repairLine_text reserved hl, rewriteLine_text hl]
  · refine fun line out => ⟨?_, Rewrites.eq_rewriteLine⟩
    rintro rfl
    obtain ⟨l, rfl, hl⟩ := Line.exists_isShape line
    rw [rewriteLine_text hl]
    exact l.rewrites hl

/-- An arrow that looks like the start of a name, and a sign that looks like one of an arrow. -/
example : rewriteLine .standard "end--x-loop : a \"b\" (c)\t\r".toList =
    "end_--x-loop_ : \"a 'b' (c)\"\t\r".toList := by decide +kernel

end DiagramDoc.Sequence
