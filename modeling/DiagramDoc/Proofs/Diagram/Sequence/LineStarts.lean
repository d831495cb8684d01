import DiagramDoc.Diagram.Sequence.Repair
import DiagramDoc.Proofs.Diagram.Sequence.Shapes
import DiagramDoc.Proofs.Text.Lines

/-! # What is found at a line start

A pass gives its reader all that is left of a source from a line start on. No blank, name, keyword
or arrow has a line feed in it, so what the reader finds is settled by a start of the first line,
and what stands behind this start is in the last piece. The passes take of the last piece what is
left of the line, and so each of them edits a source line by line.
-/

namespace DiagramDoc.Sequence

open Text Unicode

/-! ### Readers that do not look behind a line -/

section Readers

variable {α : Type} {parse? : List Char → Option α} {extend : α → List Char → α}
  {place : α → List Char × List Char} {edited : α → List Char}

/-- What a reader finds is settled by a start of the text that has no line feeds: whatever stands
behind it, the reader finds the same pieces, and the last piece goes on with what stands behind. -/
def ReadsFront (parse? : List Char → Option α) (extend : α → List Char → α) : Prop :=
  ∀ cs a, parse? cs = some a → ∃ front tail b, cs = front ++ tail ∧ '\n' ∉ front ∧
    ∀ more, parse? (front ++ more) = some (extend b more)

/-- **A reader never reads past a line feed**, but for a last piece of which the rest of the line is
taken. -/
theorem ReadsFront.map_append_feed (h : ReadsFront parse? extend)
    (hplace : ∀ b tail rest, place (extend b (tail ++ '\n' :: rest)) = place (extend b tail))
    {line : List Char} (hline : '\n' ∉ line) (rest : List Char) :
    (parse? (line ++ '\n' :: rest)).map place = (parse? line).map place := by
  cases hfound : parse? line with
  | some a =>
    obtain ⟨front, tail, b, rfl, -, hreads⟩ := h line a hfound
    rw [hreads] at hfound
    rw [List.append_assoc, hreads, Option.map_some, hplace, ← Option.map_some, hfound]
  | none =>
    cases hmore : parse? (line ++ '\n' :: rest) with
    | none => rfl
    | some a =>
      obtain ⟨front, tail, b, heq, hfront, hreads⟩ := h _ a hmore
      obtain ⟨more, rfl⟩ := exists_append_of_feed hfront heq
      rw [hreads] at hfound
      cases hfound

/-- A line with what is read in it edited. -/
def editLine (parse? : List Char → Option α) (edited : α → List Char) (line : List Char) :
    List Char :=
  match parse? line with
  | some a => edited a
  | none => line

/-- What is found in a line starts it, and what becomes of the line is what is written for it and
the rest of the line. -/
structure Edits (place : α → List Char × List Char) (edited : α → List Char) (line : List Char)
    (a : α) : Prop where
  ne_nil : (place a).1 ≠ []
  rest : ∃ left, line = (place a).1 ++ left ∧ edited a = (place a).2 ++ left

theorem ReadsFront.replaceAtLineStarts_eq_mapLines (h : ReadsFront parse? extend)
    (hplace : ∀ b tail rest, place (extend b (tail ++ '\n' :: rest)) = place (extend b tail))
    (hedits : ∀ line a, '\n' ∉ line → parse? line = some a → Edits place edited line a)
    (source : List Char) :
    replaceAtLineStarts (fun cs => (parse? cs).map place) source =
      mapLines (editLine parse? edited) source := by
  have hfinds : FindsInLine fun cs => (parse? cs).map place := by
    refine ⟨fun line rest hline => h.map_append_feed hplace hline rest, ?_⟩
    intro line hline found written hfound
    obtain ⟨a, ha, hplaced⟩ := Option.map_eq_some_iff.1 hfound
    obtain ⟨hne, left, hleft, -⟩ := hedits line a hline ha
    rw [hplaced] at hne hleft
    exact ⟨hne, left, hleft.symm⟩
  rw [hfinds.replaceAtLineStarts_eq_mapLines]
  apply mapLines_congr
  intro line hline
  rw [replaceStart, editLine]
  cases ha : parse? line with
  | none => rfl
  | some a =>
    obtain ⟨-, left, hleft, hedited⟩ := hedits line a hline ha
    have hdrop : line.drop (place a).1.length = left := by
      rw [hleft]
      exact List.drop_left
    change (place a).2 ++ line.drop (place a).1.length = edited a
    rw [hdrop, hedited]

end Readers

/-! ### The four readers -/

theorem IsAs.feed_notMem {word : List Char} (h : IsAs word) : '\n' ∉ word := by
  obtain ⟨a, s, rfl, ha, hs⟩ := h
  rw [List.mem_pair]
  rintro (rfl | rfl)
  · exact absurd ha (by decide)
  · exact absurd hs (by decide)

theorem feed_notMem_keyword {keywords : List String} {keyword : List Char}
    (hkeywords : ∀ k ∈ keywords, k.toList ≠ [] ∧ k.toList.all isWord = true)
    (h : ∃ k ∈ keywords, asciiLower keyword = k.toList) : '\n' ∉ keyword :=
  feed_notMem (by decide) (isName_of_mem_keywords hkeywords h).2

theorem feed_notMem_of_mem_arrows {arrow : List Char} (h : arrow ∈ arrows) : '\n' ∉ arrow := by
  have hall : ∀ arrow ∈ arrows, '\n' ∉ arrow := by decide
  exact hall arrow h

theorem IsLink.feed_notMem {link : List Char} (h : IsLink link) : '\n' ∉ link := by
  obtain ⟨gap, arrow, next, sign, lead, rfl, hgap, harrow, hnext, hsign, hlead⟩ := h
  have hsigned : '\n' ∉ sign := by
    rcases hsign with ⟨rfl, -⟩ | rfl | rfl <;> decide
  simp only [List.mem_append, not_or]
  exact ⟨⟨⟨⟨Text.feed_notMem (by decide) hgap, feed_notMem_of_mem_arrows harrow⟩,
    Text.feed_notMem (by decide) hnext⟩, hsigned⟩, Text.feed_notMem (by decide) hlead⟩

theorem readsFront_declaration : ReadsFront Declaration.parse?
    fun d more => { d with displayed := d.displayed ++ more } := by
  intro cs d h
  obtain ⟨rfl, hshape⟩ := Declaration.isShape_of_parse? h
  have hwritten := Declaration.isWritten_iff.2 hshape
  obtain ⟨indent, keyword, blank, hhead, hindent, hkeyword, hblank⟩ := hwritten.head
  obtain ⟨gap, word, space, shown, hdisplayed, hgap, hword, hspace⟩ := hwritten.displayed
  refine ⟨d.head ++ d.name ++ (gap ++ word ++ space), shown,
    { d with displayed := gap ++ word ++ space }, ?_, ?_, fun more => ?_⟩
  · simp [Declaration.text, hdisplayed]
  · rw [hhead]
    simp only [List.mem_append, not_or]
    exact ⟨⟨⟨⟨feed_notMem (by decide) hindent, feed_notMem_keyword (by decide) hkeyword⟩,
      feed_notMem (by decide) hblank.2⟩, feed_notMem (by decide) hwritten.name.2⟩,
      ⟨feed_notMem (by decide) hgap.2, hword.feed_notMem⟩, feed_notMem (by decide) hspace.2⟩
  · have hmore : Declaration.IsWritten { d with displayed := gap ++ word ++ space ++ more } :=
      { hwritten with displayed := ⟨gap, word, space, more, rfl, hgap, hword, hspace⟩ }
    rw [List.append_assoc]
    exact Declaration.parse?_text (Declaration.isWritten_iff.1 hmore)

theorem readsFront_opening : ReadsFront Opening.parse?
    fun o more => { o with rest := o.rest ++ more } := by
  intro cs o h
  obtain ⟨rfl, hshape⟩ := Opening.isShape_of_parse? h
  have hwritten := Opening.isWritten_iff.2 hshape
  obtain ⟨gap, arrow, tail, hrest, hgap, harrow⟩ := hwritten.rest
  refine ⟨o.indent ++ o.sender ++ (gap ++ arrow), tail, { o with rest := gap ++ arrow }, ?_, ?_,
    fun more => ?_⟩
  · simp [Opening.text, hrest]
  · simp only [List.mem_append, not_or]
    exact ⟨⟨feed_notMem (by decide) hwritten.indent, feed_notMem (by decide) hwritten.sender.2⟩,
      feed_notMem (by decide) hgap, feed_notMem_of_mem_arrows harrow⟩
  · have hmore : Opening.IsWritten { o with rest := gap ++ arrow ++ more } :=
      { hwritten with rest := ⟨gap, arrow, more, rfl, hgap, harrow⟩ }
    rw [List.append_assoc]
    exact Opening.parse?_text (Opening.isWritten_iff.1 hmore)

theorem readsFront_message : ReadsFront Message.parse?
    fun m more => { m with body := m.body ++ more } := by
  intro cs m h
  obtain ⟨rfl, hshape⟩ := Message.isShape_of_parse? h
  refine ⟨m.head, m.body, { m with body := [] }, rfl, ?_, fun more => ?_⟩
  · obtain ⟨space, hspace, hcolon⟩ := hshape.colon
    rw [Message.head, hcolon]
    simp only [List.mem_append, not_or]
    exact ⟨⟨⟨⟨feed_notMem (by decide) hshape.indent, feed_notMem (by decide) hshape.sender.2⟩,
      hshape.link.feed_notMem⟩, feed_notMem (by decide) hshape.receiver.2⟩,
      feed_notMem (by decide) hspace, by decide⟩
  · have hmore : Message.IsShape { m with body := more } := { hshape with }
    exact Message.parse?_text hmore

theorem readsFront_note : ReadsFront Note.parse?
    fun n more => { n with body := n.body ++ more } := by
  intro cs n h
  obtain ⟨rfl, hshape⟩ := Note.isShape_of_parse? h
  refine ⟨n.head, n.body, { n with body := [] }, rfl, ?_, fun more => ?_⟩
  · obtain ⟨indent, keyword, gap, side, place, hhead, hindent, hkeyword, hgap, hside, hplace, -⟩ :=
      hshape.head
    rw [hhead]
    simp only [List.mem_append, not_or]
    exact ⟨⟨⟨⟨⟨feed_notMem (by decide) hindent, feed_notMem_keyword (by decide) hkeyword⟩,
      feed_notMem (by decide) hgap.2⟩, feed_notMem_keyword (by decide) hside⟩,
      feed_notMem (by decide) hplace⟩, by decide⟩
  · have hmore : Note.IsShape { n with body := more } := ⟨hshape.head⟩
    exact Note.parse?_text hmore

/-! ### The passes line by line -/

variable (reserved : ReservedWords)

def renameDeclared : List Char → List Char :=
  editLine Declaration.parse? fun d => { d with name := rename reserved d.name }.text

def renameSender : List Char → List Char :=
  editLine Opening.parse? fun o => { o with sender := rename reserved o.sender }.text

def renameReceiver : List Char → List Char :=
  editLine Message.parse? fun m => { m with receiver := rename reserved m.receiver }.text

def quoteMessage : List Char → List Char :=
  editLine Message.parse? fun m => m.head ++ Quoting.message.apply m.body

def quoteNote : List Char → List Char :=
  editLine Note.parse? fun n => n.head ++ Quoting.note.apply n.body

theorem renameDeclarations_eq_mapLines (source : List Char) :
    renameDeclarations reserved source = mapLines (renameDeclared reserved) source := by
  refine readsFront_declaration.replaceAtLineStarts_eq_mapLines (fun d tail rest => ?_)
    (fun line d hline hd => ?_) source
  · dsimp only
    rw [← List.append_assoc, restOfLine_append_feed]
  · obtain ⟨rfl, hshape⟩ := Declaration.isShape_of_parse? hd
    have hdisplayed : restOfLine d.displayed = d.displayed :=
      restOfLine_of_notMem fun hfeed => hline (List.mem_append_right _ hfeed)
    refine ⟨?_, [], ?_, ?_⟩
    · simp [Declaration.text, hshape.name.1]
    · rw [hdisplayed, List.append_nil]
    · rw [hdisplayed, List.append_nil]

theorem replaceAtLineStarts_renameSender? (source : List Char) :
    replaceAtLineStarts (renameSender? reserved) source =
      mapLines (renameSender reserved) source := by
  refine readsFront_opening.replaceAtLineStarts_eq_mapLines (fun o tail rest => rfl)
    (fun line o hline ho => ?_) source
  obtain ⟨rfl, hshape⟩ := Opening.isShape_of_parse? ho
  exact ⟨by simp [hshape.sender.1], o.rest, rfl, rfl⟩

theorem replaceAtLineStarts_renameReceiver? (source : List Char) :
    replaceAtLineStarts (renameReceiver? reserved) source =
      mapLines (renameReceiver reserved) source := by
  refine readsFront_message.replaceAtLineStarts_eq_mapLines (fun m tail rest => rfl)
    (fun line m hline hm => ?_) source
  obtain ⟨rfl, hshape⟩ := Message.isShape_of_parse? hm
  exact ⟨by simp [Message.head, hshape.sender.1], m.body, rfl, rfl⟩

theorem Quoting.find_append_feed (q : Quoting) (head body rest : List Char) :
    q.find head (body ++ '\n' :: rest) = q.find head body := by
  rw [find, find, restOfLine_append_feed]

theorem Quoting.edits_find (q : Quoting) {α : Type} (head body : α → List Char) {a : α}
    (hhead : head a ≠ []) (hline : '\n' ∉ head a ++ body a) :
    Edits (fun a => q.find (head a) (body a)) (fun a => head a ++ q.apply (body a))
      (head a ++ body a) a := by
  have hbody : restOfLine (body a) = body a :=
    restOfLine_of_notMem fun hfeed => hline (List.mem_append_right _ hfeed)
  refine ⟨by simp [find, hhead], [], ?_, ?_⟩
  · rw [find, hbody, List.append_nil]
  · rw [find, hbody, List.append_nil]

theorem replaceAtLineStarts_quoteMessage? (source : List Char) :
    replaceAtLineStarts quoteMessage? source = mapLines quoteMessage source := by
  refine readsFront_message.replaceAtLineStarts_eq_mapLines (fun m tail rest => ?_)
    (fun line m hline hm => ?_) source
  · dsimp only
    rw [← List.append_assoc]
    exact Quoting.message.find_append_feed m.head _ rest
  · obtain ⟨rfl, hshape⟩ := Message.isShape_of_parse? hm
    exact Quoting.message.edits_find Message.head Message.body
      (by simp [Message.head, hshape.sender.1]) hline

theorem replaceAtLineStarts_quoteNote? (source : List Char) :
    replaceAtLineStarts quoteNote? source = mapLines quoteNote source := by
  refine readsFront_note.replaceAtLineStarts_eq_mapLines (fun n tail rest => ?_)
    (fun line n hline hn => ?_) source
  · dsimp only
    rw [← List.append_assoc]
    exact Quoting.note.find_append_feed n.head _ rest
  · obtain ⟨rfl, hshape⟩ := Note.isShape_of_parse? hn
    obtain ⟨indent, keyword, gap, side, place, hhead, -⟩ := hshape.head
    exact Quoting.note.edits_find Note.head Note.body (by simp [hhead]) hline

end DiagramDoc.Sequence
