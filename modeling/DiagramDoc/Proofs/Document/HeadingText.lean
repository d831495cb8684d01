import DiagramDoc.Proofs.Document.Images
import DiagramDoc.Proofs.Html.VisibleText

/-! # What a heading shows

A heading is told twice, as text and as markup, and the two are collected side by side. For text,
code, spans and line breaks of the source the markup displays just the text. Both are trimmed on
their own, so the heading shows its title up to white space at the ends: a space inside the tags of
a span stays in the markup.
-/

namespace DiagramDoc

open Html Text

/-! ### The content of headings -/

/-- An event of a heading's content: a text, inline code, a line break of the source, or an end of a
span that has tags. -/
def Event.isPhrasing : Event → Bool
  | text _ | code _ | softBreak => true
  | enter .emphasis | enter .strong | enter .strikethrough | enter (.link _ _) => true
  | leave .emphasis | leave .strong | leave .strikethrough | leave .link => true
  | _ => false

theorem greater_notMem_attr {name : String} (hname : '>' ∉ name.toList) (value : String) :
    '>' ∉ (attr name value).toList := by
  have hvalue : '>' ∉ (escape value).toList := (isEscaped_escape value).notMem '>' (by decide)
  simp [attr, hname, hvalue]

theorem displays_linkTag (url title : String) : Displays (Writer.linkTag url title).toList [] := by
  have hurl : '>' ∉ (attr "href" url).toList := greater_notMem_attr (by decide) url
  have htitle : '>' ∉ (if title = "" then "" else attr "title" title).toList := by
    split
    · decide
    · exact greater_notMem_attr (by decide) title
  have hinner : '>' ∉ "a".toList ++ (attr "href" url).toList ++
      (if title = "" then "" else attr "title" title).toList := by
    simp only [List.mem_append, not_or]
    exact ⟨⟨by decide, hurl⟩, htitle⟩
  have htag := displays_tag hinner
  simp only [Writer.linkTag, String.toList_append]
  exact htag

namespace Outline

theorem push_push (o : Outline) (text html text' html' : String) :
    (o.push text html).push text' html' = o.push (text ++ text') (html ++ html') := by
  obtain ⟨extractTitle, current, title, toc, slugs⟩ := o
  cases current with
  | none => rfl
  | some h => simp only [push, Option.map_some, String.append_assoc]

theorem isOpen_push (o : Outline) (text html : String) : (o.push text html).isOpen = o.isOpen := by
  rw [isOpen, push, Option.isSome_map, isOpen]

end Outline

namespace Writer

variable {σ : Type} (s : WriterSettings σ) (w : Writer σ)

/-- Inline content is written to an open heading, or it is kept back with the text that is
collected. -/
theorem exists_inline_of_isOpen (hopen : w.outline.isOpen = true) (text html : String) :
    ∃ text' html', (w.inline text html).1 = [] ∧
      (w.inline text html).2.outline = w.outline.push text' html' ∧
      (w.inline text html).2.capture = w.capture.append text ∧
      (text' = text ∧ html' = html ∨ w.capture ≠ .nothing ∧ text' = "" ∧ html' = "") := by
  obtain ⟨capture, table, outline, codeBlocks, state⟩ := w
  cases capture with
  | nothing =>
    rw [inline_of_isOpen rfl hopen]
    exact ⟨text, html, rfl, rfl, rfl, Or.inl ⟨rfl, rfl⟩⟩
  | code info source =>
    exact ⟨"", "", rfl, outline.push_nil.symm, rfl, Or.inr ⟨nofun, rfl, rfl⟩⟩
  | image url title alt =>
    exact ⟨"", "", rfl, outline.push_nil.symm, rfl, Or.inr ⟨nofun, rfl, rfl⟩⟩

/-- The markup of an event displays the text that goes with it. -/
theorem exists_displays_step (hopen : w.outline.isOpen = true) {event : Event}
    (hphrasing : event.isPhrasing = true) :
    ∃ html, step s w event = w.inline event.plainText html ∧
      Displays html.toList event.plainText.toList := by
  have htag {inner : List Char} (hinner : '>' ∉ inner) {html : String}
      (hhtml : html.toList = '<' :: inner ++ ['>']) : Displays html.toList "".toList := by
    rw [hhtml]
    exact displays_tag hinner
  cases event with
  | text content => exact ⟨_, rfl, displays_escape content⟩
  | code content =>
    refine ⟨_, rfl, ?_⟩
    have hstart : Displays "<code>".toList [] := displays_tag (by decide : '>' ∉ "code".toList)
    have hend : Displays "</code>".toList [] := displays_tag (by decide : '>' ∉ "/code".toList)
    have hall := (hstart.append (displays_escape content)).append hend
    rw [List.nil_append, List.append_nil, ← String.toList_append, ← String.toList_append] at hall
    exact hall
  | softBreak =>
    have hspace : step s w .softBreak = w.inline " " " " := by
      rw [step, if_pos hopen]
    exact ⟨" ", hspace, displays_escape " "⟩
  | enter tag =>
    cases tag with
    | emphasis => exact ⟨"<em>", rfl, htag (by decide : '>' ∉ "em".toList) rfl⟩
    | strong => exact ⟨"<strong>", rfl, htag (by decide : '>' ∉ "strong".toList) rfl⟩
    | strikethrough => exact ⟨"<s>", rfl, htag (by decide : '>' ∉ "s".toList) rfl⟩
    | link url title => exact ⟨linkTag url title, rfl, displays_linkTag url title⟩
    | _ => cases hphrasing
  | leave tag =>
    cases tag with
    | emphasis => exact ⟨"</em>", rfl, htag (by decide : '>' ∉ "/em".toList) rfl⟩
    | strong => exact ⟨"</strong>", rfl, htag (by decide : '>' ∉ "/strong".toList) rfl⟩
    | strikethrough => exact ⟨"</s>", rfl, htag (by decide : '>' ∉ "/s".toList) rfl⟩
    | link => exact ⟨"</a>", rfl, htag (by decide : '>' ∉ "/a".toList) rfl⟩
    | _ => cases hphrasing
  | _ => cases hphrasing

/-- **What is collected for a heading as text and as markup agrees**, and no part of it is written
before the heading is closed. -/
theorem exists_displays_run (hopen : w.outline.isOpen = true) {content : List Event}
    (hcontent : ∀ event ∈ content, event.isPhrasing = true) :
    ∃ text html, (run s w content).1 = [] ∧
      (run s w content).2.outline = w.outline.push text html ∧
      Displays html.toList text.toList ∧
      (w.capture = .nothing → text = description content) := by
  induction content generalizing w with
  | nil => exact ⟨"", "", rfl, w.outline.push_nil.symm, displays_nil, fun _ => rfl⟩
  | cons event content ih =>
    rw [List.forall_mem_cons] at hcontent
    obtain ⟨html, hstep, hdisplays⟩ := exists_displays_step s w hopen hcontent.1
    obtain ⟨text₁, html₁, hsilent, houtline, hcapture, hpushed⟩ :=
      exists_inline_of_isOpen w hopen event.plainText html
    rw [← hstep] at hsilent houtline hcapture
    have hopen' : (step s w event).2.outline.isOpen = true := by
      rw [houtline, Outline.isOpen_push, hopen]
    obtain ⟨text₂, html₂, hsilent', houtline', hdisplays', htext⟩ := ih _ hopen' hcontent.2
    refine ⟨text₁ ++ text₂, html₁ ++ html₂, ?_, ?_, ?_, ?_⟩
    · rw [run_cons, hsilent, hsilent', List.append_nil]
    · rw [run_cons, houtline', houtline, Outline.push_push]
    · rw [String.toList_append, String.toList_append]
      obtain ⟨rfl, rfl⟩ | ⟨-, rfl, rfl⟩ := hpushed
      · exact hdisplays.append hdisplays'
      · exact displays_nil.append hdisplays'
    · intro hnothing
      have hnext : (step s w event).2.capture = .nothing := by
        rw [hcapture, hnothing, Capture.append]
      obtain ⟨rfl, -⟩ | ⟨hheld, -⟩ := hpushed
      · rw [htext hnext, description, description, List.map_cons, String.join_cons]
      · exact absurd hnothing hheld

end Writer

/-- The heading that closes an outline, and what the outline takes up for it. -/
theorem Outline.close_some {o : Outline} {h : OpenHeading} (hopen : o.current = some h) :
    o.close.1 = some ⟨h.level, o.anchor (slug (trimmed h.text)), trimmed h.html⟩ ∧
      (o.close.2.title, o.close.2.toc) = takeUp o.extractTitle (o.title, o.toc)
        ⟨h.level, trimmed h.text, o.anchor (slug (trimmed h.text))⟩ := by
  constructor
  · rw [close, hopen]
  · obtain ⟨-, -, htold⟩ := o.call_entry? .close
    unfold entry? at htold
    rw [hopen] at htold
    exact htold

/-- A heading and the entry for it are of one level. What a reader sees of the heading, its markup
without tags and with characters for its entities, is the title of the entry, up to white space at
the ends, and the id of both is the anchor for that title. -/
structure ShowsEntry (o : Outline) (level : Nat) (heading : Heading) (entry : TocEntry) : Prop where
  headingLevel : heading.level = level
  entryLevel : entry.level = level
  shown : trimmed (visibleText heading.html) = entry.title
  id : heading.id = entry.id
  anchor : entry.id = o.anchor (slug entry.title)

/-- **A heading shows its title**, which is what the outline takes up for the heading. Unless
another text is being collected, the title is the plain text of the heading's content. The content
need not be nested. -/
theorem Writer.heading_shows_title {σ : Type} (s : WriterSettings σ) (w : Writer σ) (level : Nat)
    {content : List Event} (hcontent : ∀ event ∈ content, event.isPhrasing = true) :
    ∃ heading : Heading, ∃ entry : TocEntry,
      (run s w (enclose (.heading level) content)).1 = [.heading heading] ∧
        ShowsEntry w.outline level heading entry ∧
        ((run s w (enclose (.heading level) content)).2.outline.title,
            (run s w (enclose (.heading level) content)).2.outline.toc) =
          Outline.takeUp w.outline.extractTitle (w.outline.title, w.outline.toc) entry ∧
        (w.capture = .nothing → entry.title = trimmed (description content)) := by
  obtain ⟨text, html, hsilent, houtline, hdisplays, htext⟩ :=
    exists_displays_run s { w with outline := w.outline.openHeading level } rfl hcontent
  have hcurrent : ((w.outline.openHeading level).push text html).current =
      some ⟨level, text, html⟩ := by
    rw [Outline.push, Outline.openHeading, Option.map_some, String.empty_append,
      String.empty_append]
  obtain ⟨hclose, htold⟩ := Outline.close_some hcurrent
  have henter : step s w (.enter (.heading level)) =
      ([], { w with outline := w.outline.openHeading level }) := rfl
  have hleave (w : Writer σ) : step s w (.leave (Tag.heading level).toEnd) =
      (w.outline.close.1.toList.map .heading, { w with outline := w.outline.close.2 }) :=
    leave_heading s w
  have hrun : run s w (enclose (.heading level) content) =
      ([.heading ⟨level, w.outline.anchor (slug (trimmed text)), trimmed html⟩],
        { (run s { w with outline := w.outline.openHeading level } content).2 with
          outline := ((w.outline.openHeading level).push text html).close.2 }) := by
    rw [enclose, List.append_assoc, run_append, run_singleton, run_append, run_singleton, henter,
      hsilent, hleave, houtline, hclose]
    rfl
  rw [hrun]
  exact ⟨⟨level, w.outline.anchor (slug (trimmed text)), trimmed html⟩,
    ⟨level, trimmed text, w.outline.anchor (slug (trimmed text))⟩, rfl,
    ⟨rfl, rfl, hdisplays.trimmed_visibleText, rfl, rfl⟩, htold,
    fun hnothing => by rw [htext hnothing]⟩

/-- A heading with a text that looks like tags and entities, code, and a link in strong text. -/
def escapedContent : List Event :=
  [.text " a &lt; <b> "] ++ enclose .strong (enclose (.link "u>" "t\"") [.code "&"]) ++
    [.softBreak, .text "amp;"]

theorem Writer.heading_shows_title_escapedContent :
    (∀ event ∈ escapedContent, event.isPhrasing = true) ∧
      ∃ heading : Heading, ∃ entry : TocEntry,
        (run ⟨false, none⟩ (start true ()) (enclose (.heading 2) escapedContent)).1 =
            [.heading heading] ∧
          trimmed (visibleText heading.html) = entry.title ∧ heading.id = entry.id ∧
          entry.title = trimmed (description escapedContent) ∧
          (run ⟨false, none⟩ (start true ()) (enclose (.heading 2) escapedContent)).2.outline.toc =
            [entry] := by
  have hcontent : ∀ event ∈ escapedContent, event.isPhrasing = true := by decide
  obtain ⟨heading, entry, hwritten, hshows, htold, htitle⟩ :=
    heading_shows_title ⟨false, none⟩ (start true ()) 2 hcontent
  have htaken : Outline.takeUp true (none, []) entry = (none, [entry]) := by
    rw [Outline.takeUp, TocEntry.isTop, hshows.entryLevel]
    rfl
  exact ⟨hcontent, heading, entry, hwritten, hshows.shown, hshows.id, htitle rfl,
    congrArg Prod.snd (htold.trans htaken)⟩

end DiagramDoc
