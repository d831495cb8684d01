import DiagramDoc.Proofs.Document.Headings

/-! # Headings, contents and title

The headings of a document come out in three places: in the markup, in the table of contents and as
the title. All three are fed by the calls that a writer makes to its outline, one for each event,
and what the calls say does not depend on the outline. So the headings of a document and their plain
texts can be read off its events, and contents and title are told by the headings that are written.
-/

namespace DiagramDoc

open Html Text

def TocEntry.isTop (entry : TocEntry) : Bool := entry.level == 1

namespace Outline

/-! ### What calls say about headings -/

/-- The text that is pushed until the heading is closed, if no other is opened before that. -/
def pushedText? : List Call → Option String
  | [] => none
  | .openHeading _ :: _ => none
  | .push text _ :: rest => (pushedText? rest).map (text ++ ·)
  | .close :: _ => some ""

/-- The levels and plain texts of the headings that calls open and close. -/
def headingTexts : List Call → List (Nat × String)
  | [] => []
  | .openHeading level :: rest =>
    ((pushedText? rest).map fun text => (level, trimmed text)).toList ++ headingTexts rest
  | .push _ _ :: rest => headingTexts rest
  | .close :: rest => headingTexts rest

/-- The call without the markup that it pushes. -/
def Call.plain : Call → Call
  | openHeading level => openHeading level
  | push text _ => push text ""
  | close => close

theorem pushedText?_plain (calls : List Call) :
    pushedText? (calls.map Call.plain) = pushedText? calls := by
  induction calls with
  | nil => rfl
  | cons c calls ih =>
    cases c with
    | push text html => exact congrArg (Option.map _) ih
    | openHeading level | close => rfl

theorem headingTexts_plain (calls : List Call) :
    headingTexts (calls.map Call.plain) = headingTexts calls := by
  induction calls with
  | nil => rfl
  | cons c calls ih =>
    cases c with
    | openHeading level =>
      rw [List.map_cons, Call.plain, headingTexts, headingTexts, pushedText?_plain, ih]
    | push text html | close => exact ih

variable (o : Outline)

/-- The heading that is open, if calls close it. -/
def current? (calls : List Call) : Option (Nat × String) :=
  o.current.bind fun h => (pushedText? calls).map fun text => (h.level, trimmed (h.text ++ text))

/-- The entry for the heading that a call closes. -/
def entry? : Call → Option TocEntry
  | .close => o.current.map fun h =>
    ⟨h.level, trimmed h.text, o.anchor (slug (trimmed h.text))⟩
  | .openHeading _ | .push _ _ => none

/-- A call closes the open heading, or it leaves the headings that later calls will close. -/
theorem current?_cons (c : Call) (calls : List Call) :
    (o.current? (c :: calls)).toList ++ headingTexts (c :: calls) =
      (o.entry? c).toList.map (fun e => (e.level, e.title)) ++
        (((o.call c).2.current? calls).toList ++ headingTexts calls) := by
  obtain ⟨extractTitle, current, title, toc, slugs⟩ := o
  cases c with
  | openHeading level =>
    cases current <;>
      simp [current?, call, openHeading, entry?, pushedText?, headingTexts, String.empty_append]
  | push text html =>
    cases current with
    | none => rfl
    | some h =>
      simp [current?, call, push, entry?, pushedText?, headingTexts, Option.map_map,
        Function.comp_def, String.append_assoc]
  | close =>
    cases current with
    | none => rfl
    | some h =>
      have hclosed : (close ⟨extractTitle, some h, title, toc, slugs⟩).2.current = none := by
        rw [close]
        dsimp only
        split <;> rfl
      simp [current?, call, hclosed, entry?, pushedText?, headingTexts, String.append_empty]

/-! ### Title and contents -/

/-- Takes up a heading: the first of level 1 as the title if the title is extracted, and any other
as an entry of the contents. -/
def takeUp (extractTitle : Bool) (told : Option String × List TocEntry) (entry : TocEntry) :
    Option String × List TocEntry :=
  if extractTitle && entry.isTop && told.1.isNone then (some entry.title, told.2)
  else (told.1, told.2 ++ [entry])

theorem foldl_takeUp_of_no_title {extractTitle : Bool} {title : Option String}
    (h : (extractTitle && title.isNone) = false) (toc entries : List TocEntry) :
    entries.foldl (takeUp extractTitle) (title, toc) = (title, toc ++ entries) := by
  induction entries generalizing toc with
  | nil => rw [List.foldl_nil, List.append_nil]
  | cons entry entries ih =>
    have hentry : takeUp extractTitle (title, toc) entry = (title, toc ++ [entry]) := by
      rw [takeUp, if_neg]
      grind
    rw [List.foldl_cons, hentry, ih, List.append_assoc, List.singleton_append]

theorem foldl_takeUp_true (toc entries : List TocEntry) :
    entries.foldl (takeUp true) (none, toc) =
      ((entries.find? TocEntry.isTop).map TocEntry.title,
        toc ++ entries.eraseP TocEntry.isTop) := by
  induction entries generalizing toc with
  | nil => rw [List.foldl_nil, List.eraseP_nil, List.append_nil, List.find?_nil, Option.map_none]
  | cons entry entries ih =>
    cases htop : entry.isTop with
    | true =>
      have hentry : takeUp true (none, toc) entry = (some entry.title, toc) := by
        simp [takeUp, htop]
      rw [List.foldl_cons, hentry, foldl_takeUp_of_no_title rfl, List.find?_cons_of_pos htop,
        List.eraseP_cons_of_pos htop, Option.map_some]
    | false =>
      have hentry : takeUp true (none, toc) entry = (none, toc ++ [entry]) := by
        simp [takeUp, htop]
      rw [List.foldl_cons, hentry, ih, List.find?_cons_of_neg (by simp [htop]),
        List.eraseP_cons_of_neg (by simp [htop]), List.append_assoc, List.singleton_append]

/-- The heading that a call closes gets the level and the id of its entry, and the entry is taken
up. -/
theorem call_entry? (c : Call) :
    (o.call c).1.toList.map (fun h => (h.level, h.id)) =
        (o.entry? c).toList.map (fun e => (e.level, e.id)) ∧
      (o.call c).2.extractTitle = o.extractTitle ∧
      ((o.call c).2.title, (o.call c).2.toc) =
        (o.entry? c).toList.foldl (takeUp o.extractTitle) (o.title, o.toc) := by
  cases c with
  | openHeading level | push text html => exact ⟨rfl, rfl, rfl⟩
  | close =>
    rw [call, close, entry?]
    cases o.current with
    | none => exact ⟨rfl, rfl, rfl⟩
    | some h =>
      dsimp only
      refine ⟨rfl, by split <;> rfl, ?_⟩
      rw [Option.map_some, Option.toList_some, List.foldl_cons, List.foldl_nil, takeUp,
        TocEntry.isTop]
      split <;> rfl

/-- **Calls give each heading an entry**, with the level and id that the heading gets and the text
that is pushed for it, and title and contents take up the entries. -/
theorem exists_entries_run (calls : List Call) : ∃ entries : List TocEntry,
    entries.map (fun e => (e.level, e.id)) = (o.run calls).1.map (fun h => (h.level, h.id)) ∧
      entries.map (fun e => (e.level, e.title)) =
        (o.current? calls).toList ++ headingTexts calls ∧
      ((o.run calls).2.title, (o.run calls).2.toc) =
        entries.foldl (takeUp o.extractTitle) (o.title, o.toc) := by
  induction calls generalizing o with
  | nil =>
    refine ⟨[], rfl, ?_, rfl⟩
    rw [current?]
    cases o.current <;> rfl
  | cons c calls ih =>
    obtain ⟨entries, hids, htexts, htold⟩ := ih (o.call c).2
    obtain ⟨hid, hextract, htaken⟩ := o.call_entry? c
    refine ⟨(o.entry? c).toList ++ entries, ?_, ?_, ?_⟩
    · rw [run, List.map_append, List.map_append, hids, hid]
    · rw [List.map_append, htexts, current?_cons]
    · rw [List.foldl_append, ← htaken, ← hextract, ← htold]
      rfl

end Outline

/-! ### The calls of a document -/

namespace Capture

/-- The plain text that an event passes on to an open heading: its own text if none is collected,
and the description of an image at the end of the image. -/
def passed : Capture → Event → String
  | nothing, event => event.plainText
  | image _ _ alt, .leave .image => alt
  | _, _ => ""

/-- What an event calls for in an outline, but for the markup. -/
def call (c : Capture) : Event → Outline.Call
  | .enter (.heading level) => .openHeading level
  | .leave .heading => .close
  | event => .push (c.passed event) ""

def calls (c : Capture) : List Event → List Outline.Call
  | [] => []
  | event :: rest => c.call event :: (c.next event).calls rest

end Capture

/-- The levels and plain texts of the headings of a document. -/
def headingTexts (events : List Event) : List (Nat × String) :=
  Outline.headingTexts (Capture.nothing.calls events)

/-- Code counts and an image counts by its description, but what is in a code block does not. -/
example : headingTexts [.enter (.heading 2), .text " a", .softBreak, .code "b",
    .enter (.image "u" ""), .text "c", .leave .image, .enter .indentedCode, .text "d",
    .leave .codeBlock, .leave .heading, .leave .heading] = [(2, "a bc")] := by
  decide +kernel

theorem Outline.push_nil (o : Outline) : o.push "" "" = o := by
  obtain ⟨extractTitle, current, title, toc, slugs⟩ := o
  cases current with
  | none => rfl
  | some h =>
    rw [push, Option.map_some, String.append_empty, String.append_empty]

namespace Capture

variable {c : Capture} {event : Event}

theorem passed_of_ne (h : event ≠ .leave .image) :
    c.passed event = if c = .nothing then event.plainText else "" := by
  cases c with
  | nothing => rfl
  | code info source => rfl
  | image url title alt =>
    rw [if_neg nofun]
    cases event with
    | leave tag =>
      cases tag with
      | image => exact absurd rfl h
      | _ => rfl
    | _ => rfl

end Capture

namespace Writer

variable {σ : Type} (w : Writer σ)

/-- The outline is called once, and the heading that it gives is written. -/
structure Makes (written : List Fragment × Writer σ) (c : Outline.Call) : Prop where
  headings : written.1.filterMap Fragment.heading? = (w.outline.call c).1.toList
  outline : written.2.outline = (w.outline.call c).2

variable {w}

theorem makes_of_outline {written : List Fragment × Writer σ}
    (hheadings : written.1.filterMap Fragment.heading? = [])
    (houtline : written.2.outline = w.outline) : w.Makes written (.push "" "") :=
  ⟨hheadings, houtline.trans w.outline.push_nil.symm⟩

variable (w)

theorem exists_makes_inline (text html : String) : ∃ html',
    w.Makes (w.inline text html) (.push (if w.capture = .nothing then text else "") html') := by
  obtain ⟨capture, table, outline, codeBlocks, s⟩ := w
  cases capture with
  | nothing =>
    refine ⟨html, ?_⟩
    rw [if_pos rfl, inline]
    dsimp only
    split
    · exact ⟨rfl, rfl⟩
    · next hclosed =>
      have hpush : outline.push text html = outline := by
        rw [Outline.push]
        cases outline with
        | mk extractTitle current title toc slugs =>
          cases current with
          | none => rfl
          | some h => exact absurd rfl hclosed
      exact ⟨rfl, hpush.symm⟩
  | code info source | image url title alt => exact ⟨"", makes_of_outline rfl rfl⟩

variable {w} {event : Event} {written : List Fragment × Writer σ}

/-- An event passes its text on as inline content. -/
theorem exists_makes_of_inline {html : String} (hwritten : written = w.inline event.plainText html)
    (hcall : w.capture.call event = .push (w.capture.passed event) "")
    (hend : event ≠ .leave .image) :
    ∃ c, c.plain = w.capture.call event ∧ w.Makes written c := by
  obtain ⟨html', hmakes⟩ := w.exists_makes_inline event.plainText html
  refine ⟨_, ?_, hwritten ▸ hmakes⟩
  rw [hcall, Capture.passed_of_ne hend]
  rfl

/-- An event leaves the outline as it is. -/
theorem exists_makes_of_outline (hheadings : written.1.filterMap Fragment.heading? = [])
    (houtline : written.2.outline = w.outline)
    (hcall : w.capture.call event = .push (w.capture.passed event) "")
    (hend : event ≠ .leave .image) (htext : event.plainText = "") :
    ∃ c, c.plain = w.capture.call event ∧ w.Makes written c := by
  refine ⟨_, ?_, makes_of_outline hheadings houtline⟩
  rw [hcall, Capture.passed_of_ne hend, htext, ite_self]
  rfl

variable (w) (settings : WriterSettings σ)

theorem exists_makes_enter (tag : Tag) :
    ∃ c, c.plain = w.capture.call (.enter tag) ∧ w.Makes (w.enter tag) c := by
  cases tag with
  | heading level => exact ⟨.openHeading level, rfl, rfl, rfl⟩
  | emphasis | strong | strikethrough | link url title =>
    exact exists_makes_of_inline rfl rfl nofun
  | _ => exact exists_makes_of_outline rfl rfl rfl nofun rfl

theorem exists_makes_leave (tag : TagEnd) :
    ∃ c, c.plain = w.capture.call (.leave tag) ∧ w.Makes (leave settings w tag) c := by
  cases tag with
  | heading =>
    refine ⟨.close, rfl, ?_⟩
    rw [leave_heading]
    refine ⟨?_, rfl⟩
    rw [List.filterMap_map]
    exact List.filterMap_some
  | codeBlock =>
    rw [leave]
    split
    · next info source hcapture =>
      rw [finishCode_eq]
      refine exists_makes_of_outline ?_ rfl rfl nofun rfl
      generalize (offer settings.handler _ _ _).1 = answer
      cases answer <;> rfl
    · exact exists_makes_of_outline rfl rfl rfl nofun rfl
  | image =>
    obtain ⟨capture, table, outline, codeBlocks, s⟩ := w
    cases capture with
    | image url title alt =>
      obtain ⟨html', hheadings, houtline⟩ :=
        exists_makes_inline (⟨.nothing, table, outline, codeBlocks, s⟩ : Writer σ) alt
          (imageTag url title alt)
      exact ⟨.push alt html', rfl, hheadings, houtline⟩
    | nothing | code info source => exact ⟨.push "" "", rfl, makes_of_outline rfl rfl⟩
  | emphasis | strong | strikethrough | link => exact exists_makes_of_inline rfl rfl nofun
  | list ordered => cases ordered <;> exact exists_makes_of_outline rfl rfl rfl nofun rfl
  | _ => exact exists_makes_of_outline rfl rfl rfl nofun rfl

/-- **Each event makes one call to the outline.** -/
theorem exists_makes_step (event : Event) :
    ∃ c, c.plain = w.capture.call event ∧ w.Makes (step settings w event) c := by
  cases event with
  | enter tag => exact w.exists_makes_enter tag
  | leave tag => exact w.exists_makes_leave settings tag
  | text _ | code _ | html _ | inlineHtml _ | softBreak | hardBreak =>
    exact exists_makes_of_inline rfl rfl nofun
  | taskMarker checked => cases checked <;> exact exists_makes_of_outline rfl rfl rfl nofun rfl
  | rule | footnoteReference _ | inlineMath _ | displayMath _ =>
    exact exists_makes_of_outline rfl rfl rfl nofun rfl

theorem capture_step (event : Event) :
    (step settings w event).2.capture = w.capture.next event := by
  obtain ⟨a, hnext, -, hstep⟩ := exists_callsFor settings.breaks (w.withState ()) event
  have haction : step settings w event = a.perform settings w :=
    hstep σ settings.handler w.handlerState
  have hcapture : (w.withState ()).capture = w.capture := rfl
  rw [haction, ← hcapture, hnext]
  cases hasked : a.finished? with
  | none =>
    obtain ⟨hperform, -, -, hstate⟩ :=
      (w.withState ()).isUnasked_of_finished? settings.breaks hasked
    have hsame : a.perform settings w = ((a.perform ⟨settings.breaks, none⟩ (w.withState ())).1,
        (a.perform ⟨settings.breaks, none⟩ (w.withState ())).2.withState w.handlerState) :=
      hstate σ settings.handler w.handlerState
    rw [hsame, ← hperform]
    rfl
  | some block =>
    rw [Action.eq_finish hasked, Action.perform, finishCode_eq]
    rfl

/-- A run makes the calls of its events, one after the other. -/
theorem exists_calls_run (events : List Event) : ∃ calls : List Outline.Call,
    calls.map Outline.Call.plain = w.capture.calls events ∧
      (run settings w events).1.filterMap Fragment.heading? = (w.outline.run calls).1 ∧
      (run settings w events).2.outline = (w.outline.run calls).2 := by
  induction events generalizing w with
  | nil => exact ⟨[], rfl, rfl, rfl⟩
  | cons event events ih =>
    obtain ⟨c, hplain, hheadings, houtline⟩ := w.exists_makes_step settings event
    obtain ⟨calls, hplains, hmore, hlast⟩ := ih (step settings w event).2
    rw [w.capture_step settings event] at hplains
    rw [houtline] at hmore hlast
    refine ⟨c :: calls, ?_, ?_, ?_⟩
    · rw [List.map_cons, hplain, hplains, Capture.calls]
    · rw [run_cons, List.filterMap_append, hheadings, hmore]
      rfl
    · rw [run_cons, hlast]
      rfl

end Writer

/-! ### Headings in the markup -/

/-- A heading as it stands in the markup. -/
def Heading.markup (h : Heading) : String :=
  "<h" ++ toString h.level ++ attr "id" h.id ++ ">" ++ h.html ++ "</h" ++ toString h.level ++ ">"

/-- The markup of fragments has places for their headings, if no id has anything to escape. -/
theorem exists_layout_headings {fragments : List Fragment}
    (hids : ∀ h ∈ fragments.filterMap Fragment.heading?, escape h.id = h.id) :
    ∃ layout : Layout,
      layout.behind.length = (fragments.filterMap Fragment.heading?).length ∧
        concatHtml fragments =
          layout.fill ((fragments.filterMap Fragment.heading?).map Heading.markup) := by
  induction fragments with
  | nil => exact ⟨⟨"", []⟩, rfl, rfl⟩
  | cons fragment fragments ih =>
    have hcons : concatHtml (fragment :: fragments) = fragment.html ++ concatHtml fragments := by
      have hone : concatHtml [fragment] = fragment.html := String.empty_append
      rw [← hone, ← concatHtml_append]
      rfl
    rw [List.filterMap_cons] at hids
    rw [List.filterMap_cons, hcons]
    cases hheading : fragment.heading? with
    | none =>
      rw [hheading] at hids
      obtain ⟨layout, hlength, hfill⟩ := ih hids
      exact ⟨⟨fragment.html ++ layout.first, layout.behind⟩, hlength,
        by rw [hfill, Layout.fill_text]⟩
    | some heading =>
      rw [hheading, List.forall_mem_cons] at hids
      obtain ⟨layout, hlength, hfill⟩ := ih hids.2
      have hfragment : fragment = .heading heading := by
        cases fragment with
        | heading other => rw [Option.some.inj hheading]
        | _ => cases hheading
      refine ⟨⟨"", layout.first :: layout.behind⟩, congrArg Nat.succ hlength, ?_⟩
      rw [List.map_cons, Layout.fill_place, ← hfill, hfragment,
        Fragment.html_heading heading hids.1, Heading.markup]

/-- The headings that calls give have anchors as their ids, which have nothing to escape. -/
theorem Outline.escape_id_of_mem_run {o : Outline} {calls : List Call} {h : Heading}
    (hmem : h ∈ (o.run calls).1) : escape h.id = h.id := by
  induction calls generalizing o with
  | nil => cases hmem
  | cons c calls ih =>
    rw [run, List.mem_append] at hmem
    rcases hmem with hmem | hmem
    · cases c with
      | openHeading level | push text html => cases hmem
      | close =>
        rw [call, close] at hmem
        cases hcurrent : o.current with
        | none =>
          rw [hcurrent] at hmem
          cases hmem
        | some opened =>
          rw [hcurrent] at hmem
          rw [List.mem_singleton.1 hmem]
          exact o.escape_anchor_slug _
    · exact ih hmem

/-- The entries for the headings of a document. The headings that are written stand in the markup in
their order, each with its id as an attribute; each has an entry with its level and its id, and with
its plain text. If the title is extracted, it is the text of the first entry of level 1, and the
contents are the other entries; otherwise the contents are all of them. -/
structure TellsHeadings {σ : Type} (extractTitle : Bool) (events : List Event)
    (fragments : List Fragment) (rendering : Rendering σ) (entries : List TocEntry) : Prop where
  html : rendering.html = concatHtml fragments
  shown : ∃ layout : Layout,
    layout.behind.length = (fragments.filterMap Fragment.heading?).length ∧
      rendering.html = layout.fill ((fragments.filterMap Fragment.heading?).map Heading.markup)
  ids : entries.map (fun e => (e.level, e.id)) =
    (fragments.filterMap Fragment.heading?).map fun h => (h.level, h.id)
  titles : entries.map (fun e => (e.level, e.title)) = headingTexts events
  told : (rendering.title, rendering.toc) =
    if extractTitle then
      ((entries.find? TocEntry.isTop).map TocEntry.title, entries.eraseP TocEntry.isTop)
    else (none, entries)

/-- **Contents, title and headings tell the same story.** -/
theorem exists_entries_renderEvents {σ : Type} (breaks extractTitle : Bool)
    (handler : Option (FenceHandler σ)) (s : σ) (events : List Event) :
    ∃ entries : List TocEntry, TellsHeadings extractTitle events
      (Writer.run ⟨breaks, handler⟩ (.start extractTitle s) events).1
      (renderEvents breaks extractTitle handler s events) entries := by
  obtain ⟨calls, hplain, hheadings, houtline⟩ :=
    (Writer.start extractTitle s).exists_calls_run ⟨breaks, handler⟩ events
  obtain ⟨entries, hids, htexts, htold⟩ :=
    (Outline.empty extractTitle).exists_entries_run calls
  refine ⟨entries, rfl, ?_, ?_, ?_, ?_⟩
  · apply exists_layout_headings
    rw [hheadings]
    exact fun h hmem => Outline.escape_id_of_mem_run hmem
  · rw [hids, hheadings]
    rfl
  · rw [htexts, headingTexts, ← Outline.headingTexts_plain, hplain]
    rfl
  · calc ((renderEvents breaks extractTitle handler s events).title,
          (renderEvents breaks extractTitle handler s events).toc)
        = (((Outline.empty extractTitle).run calls).2.title,
            ((Outline.empty extractTitle).run calls).2.toc) :=
          congrArg (fun o : Outline => (o.title, o.toc)) houtline
      _ = entries.foldl (Outline.takeUp extractTitle) (none, []) := htold
      _ = if extractTitle then
            ((entries.find? TocEntry.isTop).map TocEntry.title, entries.eraseP TocEntry.isTop)
          else (none, entries) := by
          cases extractTitle with
          | true => exact Outline.foldl_takeUp_true [] entries
          | false => exact Outline.foldl_takeUp_of_no_title rfl [] entries

end DiagramDoc
