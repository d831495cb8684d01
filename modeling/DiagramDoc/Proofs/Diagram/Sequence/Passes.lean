import DiagramDoc.Proofs.Diagram.Sequence.LineStarts

/-! # The passes as one

A line is of one kind only: the word in front of a name or a side is followed by a blank and a
word, the sender of a message by an arrow, and the keywords of declarations and notes differ. Hence
the passes do not meet on a line, and the repair of a line can be told by its kind.
-/

namespace DiagramDoc.Sequence

open Text Unicode

/-! ### One kind only -/

theorem Opening.parse?_words {indent word gap next : List Char} (rest : List Char)
    (hindent : IsBlanks indent) (hword : IsName word) (hgap : IsGap gap) (hnext : IsName next) :
    Opening.parse? (indent ++ (word ++ (gap ++ (next ++ rest)))) = none := by
  have htoWord := takeBlanks_eq_iff.2 ⟨rfl, hindent,
    hword.stops_isBlank (gap ++ (next ++ rest))⟩
  have htoGap := takeName?_eq_some_iff.2 ⟨rfl, hword, hgap.stops_isWord (next ++ rest)⟩
  have htoNext := takeBlanks_eq_iff.2 ⟨rfl, hgap.2, hnext.stops_isBlank rest⟩
  rw [Opening.parse?]
  simp only [htoWord, htoGap, htoNext, takeArrow?_of_isName hnext, Option.bind_eq_bind,
    Option.bind_some, Option.bind_none]

theorem Message.parse?_of_opening {line : List Char} (h : Opening.parse? line = none) :
    Message.parse? line = none := by
  rw [Option.eq_none_iff_forall_ne_some]
  intro m hm
  obtain ⟨rfl, hshape⟩ := Message.isShape_of_parse? hm
  rw [← m.text_opening, Opening.parse?_text hshape.opening] at h
  cases h

theorem Declaration.IsShape.opening {d : Declaration} (h : d.IsShape) :
    Opening.parse? d.text = none := by
  obtain ⟨indent, keyword, gap, hhead, hindent, hkeyword, hgap⟩ := h.head
  have hword : IsName keyword := isName_of_mem_keywords (by decide) hkeyword
  rw [Declaration.text, hhead]
  simp only [List.append_assoc]
  exact Opening.parse?_words _ hindent hword hgap h.name

theorem Note.IsShape.opening {n : Note} (h : n.IsShape) : Opening.parse? n.text = none := by
  obtain ⟨indent, keyword, gap, side, place, hhead, hindent, hkeyword, hgap, hside, -⟩ := h.head
  have hword : IsName keyword := isName_of_mem_keywords (by decide) hkeyword
  have hnext : IsName side := isName_of_mem_keywords (by decide) hside
  rw [Note.text, hhead]
  simp only [List.append_assoc]
  exact Opening.parse?_words _ hindent hword hgap hnext

theorem Note.IsShape.declaration {n : Note} (h : n.IsShape) :
    Declaration.parse? n.text = none := by
  obtain ⟨indent, keyword, gap, side, place, hhead, hindent, hkeyword, hgap, -⟩ := h.head
  have hword : IsName keyword := isName_of_mem_keywords (by decide) hkeyword
  rw [Option.eq_none_iff_forall_ne_some]
  intro d hd
  obtain ⟨htext, hshape⟩ := Declaration.isShape_of_parse? hd
  obtain ⟨indent', keyword', gap', hhead', hindent', hkeyword', hgap'⟩ := hshape.head
  have hword' : IsName keyword' := isName_of_mem_keywords (by decide) hkeyword'
  rw [Note.text, Declaration.text, hhead, hhead'] at htext
  simp only [List.append_assoc] at htext
  have hblanks := takeBlanks_eq_iff.2 ⟨rfl, hindent,
    hword.stops_isBlank (gap ++ (side ++ (place ++ ([':'] ++ n.body))))⟩
  rw [htext, takeBlanks_eq_iff.2 ⟨rfl, hindent', hword'.stops_isBlank _⟩, Prod.mk.injEq]
    at hblanks
  have hname := takeName?_eq_some_iff.2 ⟨rfl, hword,
    hgap.stops_isWord (side ++ (place ++ ([':'] ++ n.body)))⟩
  rw [← hblanks.2, takeName?_eq_some_iff.2 ⟨rfl, hword', hgap'.stops_isWord _⟩, Option.some.injEq,
    Prod.mk.injEq] at hname
  obtain ⟨k, hk, heq⟩ := hkeyword
  obtain ⟨k', hk', heq'⟩ := hkeyword'
  rw [hname.1, heq] at heq'
  have hne : ∀ k ∈ ["note"], ∀ k' ∈ ["participant", "actor"], k.toList ≠ k'.toList := by decide
  exact hne k hk k' hk' heq'

theorem Message.parse?_sender {o : Opening} {sender : List Char} (h : o.IsShape)
    (hsender : IsName sender) (hnone : Message.parse? o.text = none) :
    Message.parse? { o with sender := sender }.text = none := by
  rw [Option.eq_none_iff_forall_ne_some]
  intro m hm
  obtain ⟨htext, hshape⟩ := Message.isShape_of_parse? hm
  have hother : Opening.IsShape { o with sender := sender } := { h with sender := hsender }
  have hopening := Opening.parse?_text hshape.opening
  rw [m.text_opening, ← htext, Opening.parse?_text hother, Option.some.injEq] at hopening
  have hback : Message.IsShape { m with sender := o.sender } := { hshape with sender := h.sender }
  have hsame : Message.opening { m with sender := o.sender } = o := by
    have hfields := congrArg (fun p : Opening => { p with sender := o.sender }) hopening
    exact hfields.symm
  have hparse := Message.parse?_text hback
  rw [← Message.text_opening, hsame, hnone] at hparse
  cases hparse

/-! ### Kinds of lines -/

inductive Line where
  | declaration (d : Declaration)
  | message (m : Message)
  | opening (o : Opening)
  | note (n : Note)
  | other (chars : List Char)
  deriving DecidableEq, Repr

namespace Line

def text : Line → List Char
  | declaration d => d.text
  | message m => m.text
  | opening o => o.text
  | note n => n.text
  | other chars => chars

def IsShape : Line → Prop
  | declaration d => d.IsShape
  | message m => m.IsShape
  | opening o => o.IsShape ∧ Message.parse? o.text = none
  | note n => n.IsShape
  | other chars => Declaration.parse? chars = none ∧ Opening.parse? chars = none ∧
      Note.parse? chars = none

def declaration? : Line → Option Declaration
  | declaration d => some d
  | _ => none

def opening? : Line → Option Opening
  | message m => some m.opening
  | opening o => some o
  | _ => none

def message? : Line → Option Message
  | message m => some m
  | _ => none

def note? : Line → Option Note
  | note n => some n
  | _ => none

variable {l : Line}

theorem opening_parse? (h : l.IsShape) : Opening.parse? l.text = l.opening? := by
  cases l with
  | declaration d => exact Declaration.IsShape.opening h
  | message m =>
    rw [text, ← m.text_opening]
    exact Opening.parse?_text (Message.IsShape.opening h)
  | opening o => exact Opening.parse?_text h.1
  | note n => exact Note.IsShape.opening h
  | other chars => exact h.2.1

theorem message_parse? (h : l.IsShape) : Message.parse? l.text = l.message? := by
  cases l with
  | declaration d => exact Message.parse?_of_opening (Declaration.IsShape.opening h)
  | message m => exact Message.parse?_text h
  | opening o => exact h.2
  | note n => exact Message.parse?_of_opening (Note.IsShape.opening h)
  | other chars => exact Message.parse?_of_opening h.2.1

theorem declaration_parse?_of_opening {line : List Char} {o : Opening}
    (h : Opening.parse? line = some o) : Declaration.parse? line = none := by
  rw [Option.eq_none_iff_forall_ne_some]
  intro d hd
  obtain ⟨rfl, hshape⟩ := Declaration.isShape_of_parse? hd
  rw [hshape.opening] at h
  cases h

theorem note_parse?_of_opening {line : List Char} {o : Opening}
    (h : Opening.parse? line = some o) : Note.parse? line = none := by
  rw [Option.eq_none_iff_forall_ne_some]
  intro n hn
  obtain ⟨rfl, hshape⟩ := Note.isShape_of_parse? hn
  rw [hshape.opening] at h
  cases h

theorem declaration_parse? (h : l.IsShape) : Declaration.parse? l.text = l.declaration? := by
  cases l with
  | declaration d => exact Declaration.parse?_text h
  | message m => exact declaration_parse?_of_opening (opening_parse? h)
  | opening o => exact declaration_parse?_of_opening (opening_parse? h)
  | note n => exact Note.IsShape.declaration h
  | other chars => exact h.1

theorem note_parse? (h : l.IsShape) : Note.parse? l.text = l.note? := by
  cases l with
  | declaration d =>
    change Note.parse? d.text = none
    rw [Option.eq_none_iff_forall_ne_some]
    intro n hn
    obtain ⟨htext, hshape⟩ := Note.isShape_of_parse? hn
    have hnone := hshape.declaration
    rw [← htext, Declaration.parse?_text h] at hnone
    cases hnone
  | message m => exact note_parse?_of_opening (opening_parse? h)
  | opening o => exact note_parse?_of_opening (opening_parse? h)
  | note n => exact Note.parse?_text h
  | other chars => exact h.2.2

theorem exists_isShape (line : List Char) : ∃ l : Line, line = l.text ∧ l.IsShape := by
  cases hd : Declaration.parse? line with
  | some d => exact ⟨declaration d, Declaration.isShape_of_parse? hd⟩
  | none =>
    cases hm : Message.parse? line with
    | some m => exact ⟨message m, Message.isShape_of_parse? hm⟩
    | none =>
      cases ho : Opening.parse? line with
      | some o =>
        obtain ⟨rfl, hshape⟩ := Opening.isShape_of_parse? ho
        exact ⟨opening o, rfl, hshape, hm⟩
      | none =>
        cases hn : Note.parse? line with
        | some n => exact ⟨note n, Note.isShape_of_parse? hn⟩
        | none => exact ⟨other line, rfl, hd, ho, hn⟩

/-! ### What becomes of a line -/

def renameDeclared (reserved : ReservedWords) : Line → Line
  | declaration d => declaration { d with name := rename reserved d.name }
  | l => l

def renameSender (reserved : ReservedWords) : Line → Line
  | message m => message { m with sender := rename reserved m.sender }
  | opening o => opening { o with sender := rename reserved o.sender }
  | l => l

def renameReceiver (reserved : ReservedWords) : Line → Line
  | message m => message { m with receiver := rename reserved m.receiver }
  | l => l

def quoteMessage : Line → Line
  | message m => message { m with body := Quoting.message.apply m.body }
  | l => l

def quoteNote : Line → Line
  | note n => note { n with body := Quoting.note.apply n.body }
  | l => l

def repair (reserved : ReservedWords) (l : Line) : Line :=
  (((l.renameDeclared reserved).renameSender reserved).renameReceiver reserved).quoteMessage.quoteNote

end Line

theorem isName_rename {name : List Char} (reserved : ReservedWords) (h : IsName name) :
    IsName (rename reserved name) := by
  rw [Sequence.rename]
  split
  · refine ⟨by simp, ?_⟩
    intro c hc
    rcases List.mem_append.1 hc with hc | hc
    · exact h.2 c hc
    · obtain rfl := List.mem_singleton.1 hc
      decide
  · exact h

namespace Line

variable {l : Line} (reserved : ReservedWords)

/-! Each pass keeps the kind of a line, and does to its text what it does to its pieces. -/

theorem IsShape.renameDeclared (h : l.IsShape) : (l.renameDeclared reserved).IsShape := by
  cases l with
  | declaration d => exact { h with name := isName_rename reserved h.name }
  | message m => exact h
  | opening o => exact h
  | note n => exact h
  | other chars => exact h

theorem IsShape.renameSender (h : l.IsShape) : (l.renameSender reserved).IsShape := by
  cases l with
  | declaration d => exact h
  | message m => exact { h with sender := isName_rename reserved h.sender }
  | opening o =>
    have hsender := isName_rename reserved h.1.sender
    exact ⟨{ h.1 with sender := hsender }, Message.parse?_sender h.1 hsender h.2⟩
  | note n => exact h
  | other chars => exact h

theorem IsShape.renameReceiver (h : l.IsShape) : (l.renameReceiver reserved).IsShape := by
  cases l with
  | declaration d => exact h
  | message m => exact { h with receiver := isName_rename reserved h.receiver }
  | opening o => exact h
  | note n => exact h
  | other chars => exact h

theorem IsShape.quoteMessage (h : l.IsShape) : l.quoteMessage.IsShape := by
  cases l with
  | declaration d => exact h
  | message m => exact { h with }
  | opening o => exact h
  | note n => exact h
  | other chars => exact h

theorem IsShape.quoteNote (h : l.IsShape) : l.quoteNote.IsShape := by
  cases l with
  | declaration d => exact h
  | message m => exact h
  | opening o => exact h
  | note n => exact ⟨h.head⟩
  | other chars => exact h

theorem IsShape.repair (h : l.IsShape) : (l.repair reserved).IsShape :=
  (((h.renameDeclared reserved).renameSender reserved).renameReceiver reserved).quoteMessage.quoteNote

theorem renameDeclared_text (h : l.IsShape) :
    Sequence.renameDeclared reserved l.text = (l.renameDeclared reserved).text := by
  rw [Sequence.renameDeclared, editLine, declaration_parse? h]
  cases l <;> rfl

theorem renameSender_text (h : l.IsShape) :
    Sequence.renameSender reserved l.text = (l.renameSender reserved).text := by
  rw [Sequence.renameSender, editLine, opening_parse? h]
  cases l with
  | message m =>
    exact Message.text_opening { m with sender := rename reserved m.sender }
  | declaration d => rfl
  | opening o => rfl
  | note n => rfl
  | other chars => rfl

theorem renameReceiver_text (h : l.IsShape) :
    Sequence.renameReceiver reserved l.text = (l.renameReceiver reserved).text := by
  rw [Sequence.renameReceiver, editLine, message_parse? h]
  cases l <;> rfl

theorem quoteMessage_text (h : l.IsShape) :
    Sequence.quoteMessage l.text = l.quoteMessage.text := by
  rw [Sequence.quoteMessage, editLine, message_parse? h]
  cases l <;> rfl

theorem quoteNote_text (h : l.IsShape) : Sequence.quoteNote l.text = l.quoteNote.text := by
  rw [Sequence.quoteNote, editLine, note_parse? h]
  cases l <;> rfl

end Line

/-! ### The passes over a line -/

def repairLine (reserved : ReservedWords) : List Char → List Char :=
  quoteNote ∘ quoteMessage ∘ renameReceiver reserved ∘ renameSender reserved ∘
    renameDeclared reserved

/-- **The passes do to a line what its kind calls for.** -/
theorem repairLine_text (reserved : ReservedWords) {l : Line} (h : l.IsShape) :
    repairLine reserved l.text = (l.repair reserved).text := by
  have hdeclared := h.renameDeclared reserved
  have hsender := hdeclared.renameSender reserved
  have hreceiver := hsender.renameReceiver reserved
  rw [repairLine, Function.comp_apply, Function.comp_apply, Function.comp_apply,
    Function.comp_apply, Line.renameDeclared_text reserved h,
    Line.renameSender_text reserved hdeclared, Line.renameReceiver_text reserved hsender,
    Line.quoteMessage_text hreceiver, Line.quoteNote_text hreceiver.quoteMessage, Line.repair]

/-! ### No pass makes a line feed -/

theorem notMem_rename {reserved : ReservedWords} {name : List Char} (h : '\n' ∉ name) :
    '\n' ∉ rename reserved name := by
  rw [rename]
  split
  · rw [List.mem_append, not_or]
    exact ⟨h, by decide⟩
  · exact h

theorem Body.text_append_trail (cs : List Char) :
    (Body.ofChars cs).lead ++ ((Body.ofChars cs).text ++ (Body.ofChars cs).trail) = cs := by
  rw [Body.ofChars]
  dsimp only
  rw [dropEndWhile_append_takeEndWhile, List.takeWhile_append_dropWhile]

theorem Quoting.notMem_apply {q : Quoting} {body : List Char} (hq : '\n' ∉ q.innerQuote)
    (h : '\n' ∉ body) : '\n' ∉ q.apply body := by
  have hpieces := Body.text_append_trail body
  rw [← hpieces, List.mem_append, List.mem_append, not_or, not_or] at h
  rw [Quoting.apply]
  split
  · rw [← hpieces, List.mem_append, List.mem_append, not_or, not_or]
    exact h
  · simp only [List.mem_append, List.mem_flatMap, not_or, not_exists, not_and]
    refine ⟨⟨⟨by decide, ?_⟩, by decide⟩, h.2.2⟩
    intro c hc hmem
    split at hmem
    · exact hq hmem
    · rw [List.mem_singleton] at hmem
      exact h.2.1 (hmem ▸ hc)

theorem staysInLine_editLine {α : Type} {parse? : List Char → Option α} {edited : α → List Char}
    (h : ∀ line a, '\n' ∉ line → parse? line = some a → '\n' ∉ edited a) :
    StaysInLine (editLine parse? edited) := by
  intro line hline
  rw [editLine]
  split
  · next a ha => exact h line a hline ha
  · exact hline

theorem staysInLine_renameDeclared (reserved : ReservedWords) :
    StaysInLine (renameDeclared reserved) := by
  refine staysInLine_editLine fun line d hline hd => ?_
  obtain ⟨rfl, -⟩ := Declaration.isShape_of_parse? hd
  simp only [Declaration.text, List.mem_append, not_or] at hline ⊢
  exact ⟨⟨hline.1.1, notMem_rename hline.1.2⟩, hline.2⟩

theorem staysInLine_renameSender (reserved : ReservedWords) :
    StaysInLine (renameSender reserved) := by
  refine staysInLine_editLine fun line o hline ho => ?_
  obtain ⟨rfl, -⟩ := Opening.isShape_of_parse? ho
  simp only [Opening.text, List.mem_append, not_or] at hline ⊢
  exact ⟨⟨hline.1.1, notMem_rename hline.1.2⟩, hline.2⟩

theorem staysInLine_renameReceiver (reserved : ReservedWords) :
    StaysInLine (renameReceiver reserved) := by
  refine staysInLine_editLine fun line m hline hm => ?_
  obtain ⟨rfl, -⟩ := Message.isShape_of_parse? hm
  simp only [Message.text, Message.head, List.mem_append, not_or] at hline ⊢
  exact ⟨⟨⟨hline.1.1.1, notMem_rename hline.1.1.2⟩, hline.1.2⟩, hline.2⟩

theorem staysInLine_quoteMessage : StaysInLine quoteMessage := by
  refine staysInLine_editLine fun line m hline hm => ?_
  obtain ⟨rfl, -⟩ := Message.isShape_of_parse? hm
  rw [Message.text, List.mem_append, not_or] at hline
  rw [List.mem_append, not_or]
  exact ⟨hline.1, Quoting.notMem_apply (by decide) hline.2⟩

theorem staysInLine_quoteNote : StaysInLine quoteNote := by
  refine staysInLine_editLine fun line n hline hn => ?_
  obtain ⟨rfl, -⟩ := Note.isShape_of_parse? hn
  rw [Note.text, List.mem_append, not_or] at hline
  rw [List.mem_append, not_or]
  exact ⟨hline.1, Quoting.notMem_apply (by decide) hline.2⟩

theorem staysInLine_repairLine (reserved : ReservedWords) : StaysInLine (repairLine reserved) :=
  staysInLine_quoteNote.comp (staysInLine_quoteMessage.comp
    ((staysInLine_renameReceiver reserved).comp ((staysInLine_renameSender reserved).comp
      (staysInLine_renameDeclared reserved))))

/-- **A repair goes line by line.** -/
theorem repair_eq_mapLines (reserved : ReservedWords) (source : List Char) :
    repair reserved source = mapLines (repairLine reserved) source := by
  have hdeclared := staysInLine_renameDeclared reserved
  have hsender := (staysInLine_renameSender reserved).comp hdeclared
  have hreceiver := (staysInLine_renameReceiver reserved).comp hsender
  rw [repair, renameReferences, renameDeclarations_eq_mapLines,
    replaceAtLineStarts_renameSender?, replaceAtLineStarts_renameReceiver?,
    replaceAtLineStarts_quoteMessage?, replaceAtLineStarts_quoteNote?, mapLines_mapLines hdeclared,
    mapLines_mapLines hsender, mapLines_mapLines hreceiver,
    mapLines_mapLines (staysInLine_quoteMessage.comp hreceiver)]
  rfl

theorem readAt?_repair (reserved : ReservedWords) {α : Type} (parse? : List Char → Option α)
    (source : List Char) (i : Nat) :
    readAt? parse? (repair reserved source) i =
      readAt? (parse? ∘ repairLine reserved) source i := by
  rw [repair_eq_mapLines, readAt?_mapLines (staysInLine_repairLine reserved)]

end DiagramDoc.Sequence
