import DiagramDoc.Proofs.Document.HeadingText

/-! # Options of a rendering

A document can be written with line breaks or without, and with or without its title extracted. What
the renderings of the same events have in common is shown by two writers that run side by side. With
and without line breaks the writers stay equal, since nothing is left in the writer of a soft break
that is written. With and without the title their outlines differ, but a step looks at the outline
only for whether a heading is open, and what closes a heading does not look at title and contents.
-/

namespace DiagramDoc

open Text

/-! ### Line breaks -/

/-- Whether a heading is open behind an event. -/
def Event.inHeading (before : Bool) : Event → Bool
  | enter (.heading _) => true
  | leave .heading => false
  | _ => before

/-- A soft break is a line break unless it is in a heading, in the description of an image or in a
code block. -/
def Event.isLineBreak (c : Capture) (inHeading : Bool) (event : Event) : Bool :=
  decide (event = .softBreak ∧ c = .nothing ∧ inHeading = false)

/-- Which of the events are line breaks. -/
def lineBreaks (c : Capture) (inHeading : Bool) : List Event → List Bool
  | [] => []
  | event :: rest =>
    event.isLineBreak c inHeading :: lineBreaks (c.next event) (event.inHeading inHeading) rest

namespace Outline

/-- Whether a heading is open behind a call. -/
def Call.inHeading (before : Bool) : Call → Bool
  | openHeading _ => true
  | push _ _ => before
  | close => false

theorem current_close (o : Outline) : o.close.2.current = none := by
  rw [close]
  cases hcurrent : o.current with
  | none => exact hcurrent
  | some h =>
    dsimp only
    split <;> rfl

theorem isOpen_call (o : Outline) (c : Call) :
    (o.call c).2.isOpen = c.plain.inHeading o.isOpen := by
  cases c with
  | openHeading level => rfl
  | push text html => exact o.isOpen_push text html
  | close =>
    rw [call, isOpen, current_close]
    rfl

end Outline

theorem Capture.inHeading_call (c : Capture) (inHeading : Bool) (event : Event) :
    (c.call event).inHeading inHeading = event.inHeading inHeading := by
  cases event with
  | enter tag => cases tag <;> rfl
  | leave tag => cases tag <;> rfl
  | _ => rfl

namespace Writer

variable {σ : Type} (handler : Option (FenceHandler σ)) (s : WriterSettings σ) (w : Writer σ)

theorem isOpen_step (event : Event) :
    (step s w event).2.outline.isOpen = event.inHeading w.outline.isOpen := by
  obtain ⟨c, hplain, -, houtline⟩ := w.exists_makes_step s event
  rw [houtline, Outline.isOpen_call, hplain, Capture.inHeading_call]

theorem step_of_isLineBreak {event : Event}
    (h : event.isLineBreak w.capture w.outline.isOpen = true) (breaks : Bool) :
    step ⟨breaks, handler⟩ w event = ([.markup (if breaks then "<br>" else "\n")], w) := by
  obtain ⟨rfl, hcapture, hclosed⟩ := of_decide_eq_true h
  rw [step, inline_of_isOpen_eq_false hcapture hclosed, hclosed]
  rfl

/-- Only a line break is written as the option says. -/
theorem step_of_isLineBreak_eq_false {event : Event}
    (h : event.isLineBreak w.capture w.outline.isOpen = false) (breaks breaks' : Bool) :
    step ⟨breaks, handler⟩ w event = step ⟨breaks', handler⟩ w event := by
  cases event with
  | softBreak =>
    obtain ⟨capture, table, outline, codeBlocks, state⟩ := w
    cases capture with
    | nothing =>
      have hopen : outline.isOpen = true := by
        by_contra hclosed
        exact of_decide_eq_false h ⟨rfl, rfl, Bool.eq_false_of_not_eq_true hclosed⟩
      rw [step, step]
      dsimp only
      rw [if_pos hopen, if_pos hopen]
    | code info source | image url title alt => rfl
  | leave tag => cases tag <;> rfl
  | taskMarker checked => cases checked <;> rfl
  | _ => rfl

/-- What each event adds to the output. -/
def written (w : Writer σ) : List Event → List String
  | [] => []
  | event :: rest => concatHtml (step s w event).1 :: written (step s w event).2 rest

theorem concatHtml_run (events : List Event) :
    concatHtml (run s w events).1 = String.join (written s w events) := by
  induction events generalizing w with
  | nil => rfl
  | cons event events ih =>
    rw [run_cons, concatHtml_append, ih, written, String.join_cons]

/-- **With and without line breaks a run ends in the same writer**, and the same is added by each
event that is not a line break. -/
theorem run_breaks (events : List Event) :
    (run ⟨false, handler⟩ w events).2 = (run ⟨true, handler⟩ w events).2 ∧
      written ⟨false, handler⟩ w events =
        List.zipWith (fun isBreak text => if isBreak then "\n" else text)
          (lineBreaks w.capture w.outline.isOpen events) (written ⟨true, handler⟩ w events) ∧
      List.Forall₂ (fun isBreak text => isBreak = true → text = "<br>")
        (lineBreaks w.capture w.outline.isOpen events) (written ⟨true, handler⟩ w events) := by
  induction events generalizing w with
  | nil => exact ⟨rfl, rfl, .nil⟩
  | cons event events ih =>
    obtain ⟨hlast, hwritten, hbreaks⟩ := ih (step ⟨true, handler⟩ w event).2
    rw [capture_step, isOpen_step] at hwritten hbreaks
    rw [run_cons, run_cons, written, written, lineBreaks, List.zipWith_cons_cons]
    cases hbreak : event.isLineBreak w.capture w.outline.isOpen with
    | true =>
      have hstep := step_of_isLineBreak handler w hbreak
      have hmarkup (html : String) : concatHtml [.markup html] = html := String.empty_append
      rw [hstep true] at hlast hwritten hbreaks ⊢
      rw [hstep false, hmarkup, hmarkup, hwritten]
      exact ⟨hlast, rfl, .cons (fun _ => rfl) hbreaks⟩
    | false =>
      rw [step_of_isLineBreak_eq_false handler w hbreak false true, hwritten]
      exact ⟨hlast, rfl, .cons nofun hbreaks⟩

end Writer

/-- The soft break of a paragraph is a line break, and that of a description or a heading is not. -/
example : lineBreaks .nothing false [.enter .paragraph, .softBreak, .enter (.image "u" ""),
    .softBreak, .leave .image, .leave .paragraph, .enter (.heading 1), .softBreak,
    .leave .heading] = [false, true, false, false, false, false, false, false, false] := by
  decide

/-! ### The title -/

namespace Outline

/-- An outline that extracts the title, next to one behind the same calls that does not. -/
structure Extracts (on off : Outline) : Prop where
  extracts : on.extractTitle = true
  keeps : off.extractTitle = false
  current : on.current = off.current
  slugs : on.slugs = off.slugs
  untitled : off.title = none
  told : (on.title, on.toc) = off.toc.foldl (takeUp true) (none, [])

variable {on off : Outline}

theorem extracts_empty : Extracts (empty true) (empty false) := ⟨rfl, rfl, rfl, rfl, rfl, rfl⟩

theorem slugs_close (o : Outline) :
    o.close.2.slugs = o.slugs ++ (o.current.map fun h => slug (trimmed h.text)).toList := by
  rw [close]
  cases o.current with
  | none => exact (List.append_nil _).symm
  | some h =>
    dsimp only
    split <;> rfl

/-- Headings, anchors and entries are made from the open heading and the slugs before it. -/
theorem call_of_current_eq (hcurrent : on.current = off.current) (hslugs : on.slugs = off.slugs)
    (c : Call) :
    (on.call c).1 = (off.call c).1 ∧ on.entry? c = off.entry? c ∧
      (on.call c).2.current = (off.call c).2.current ∧
      (on.call c).2.slugs = (off.call c).2.slugs := by
  cases c with
  | openHeading level => exact ⟨rfl, rfl, rfl, hslugs⟩
  | push text html => exact ⟨rfl, rfl, by rw [call, call, push, push, hcurrent], hslugs⟩
  | close =>
    have hanchor : on.anchor = off.anchor := by
      funext slug
      rw [anchor_eq, anchor_eq, hslugs]
    refine ⟨?_, ?_, ?_, ?_⟩
    · rw [call, call, close, close, hcurrent, hanchor]
      cases off.current <;> rfl
    · unfold entry?
      rw [hcurrent, hanchor]
    · rw [call, call, current_close, current_close]
    · rw [call, call, slugs_close, slugs_close, hcurrent, hslugs]

theorem Extracts.call (h : Extracts on off) (c : Call) :
    (on.call c).1 = (off.call c).1 ∧ Extracts (on.call c).2 (off.call c).2 := by
  obtain ⟨hon, hoff, hcurrent, hslugs, huntitled, htold⟩ := h
  obtain ⟨hheading, hentry, hcurrent', hslugs'⟩ := call_of_current_eq hcurrent hslugs c
  obtain ⟨-, hon', htakes⟩ := on.call_entry? c
  obtain ⟨-, hoff', hkeeps⟩ := off.call_entry? c
  rw [hoff, huntitled, foldl_takeUp_of_no_title rfl, Prod.mk.injEq] at hkeeps
  refine ⟨hheading, hon'.trans hon, hoff'.trans hoff, hcurrent', hslugs', hkeeps.1, ?_⟩
  rw [htakes, hon, htold, hentry, hkeeps.2, List.foldl_append]

end Outline

namespace Writer

variable {σ : Type} (s : WriterSettings σ) (w : Writer σ)

def withOutline (o : Outline) : Writer σ := { w with outline := o }

/-- Whatever the outline is, if a heading is open or not as `inHeading` says, the same is written,
one call is made to the outline, the heading that it gives is written, and the rest of the writer
is the same. -/
def CallsOnce (inHeading : Bool) (f : Outline → List Fragment × Writer σ) : Prop :=
  ∃ (c : Outline.Call) (fragments : List Fragment) (last : Writer σ),
    ∀ o : Outline, o.isOpen = inHeading →
      f o = (fragments ++ (o.call c).1.toList.map .heading, last.withOutline (o.call c).2)

variable {inHeading : Bool} {f g : Outline → List Fragment × Writer σ}

theorem CallsOnce.congr (h : CallsOnce inHeading g)
    (heq : ∀ o : Outline, o.isOpen = inHeading → f o = g o) : CallsOnce inHeading f := by
  obtain ⟨c, fragments, last, hcall⟩ := h
  exact ⟨c, fragments, last, fun o hopen => (heq o hopen).trans (hcall o hopen)⟩

theorem callsOnce_of_outline (fragments : List Fragment) (last : Writer σ) :
    CallsOnce inHeading fun o => (fragments, last.withOutline o) := by
  refine ⟨.push "" "", fragments, last, fun o _ => ?_⟩
  have hcall : o.call (.push "" "") = (none, o) := congrArg (Prod.mk none) o.push_nil
  rw [hcall, Option.toList_none, List.map_nil, List.append_nil]

theorem callsOnce_inline (text html : String) :
    CallsOnce inHeading fun o => (w.withOutline o).inline text html := by
  obtain ⟨capture, table, outline, codeBlocks, state⟩ := w
  cases capture with
  | nothing =>
    cases inHeading with
    | true =>
      exact ⟨.push text html, [], ⟨.nothing, table, outline, codeBlocks, state⟩,
        fun o hopen => inline_of_isOpen rfl hopen text html⟩
    | false =>
      exact CallsOnce.congr
        (callsOnce_of_outline [.markup html] ⟨.nothing, table, outline, codeBlocks, state⟩)
        fun o hclosed => inline_of_isOpen_eq_false rfl hclosed text html
  | code info source =>
    exact callsOnce_of_outline [] ⟨.code info (source ++ text), table, outline, codeBlocks, state⟩
  | image url title alt =>
    exact callsOnce_of_outline []
      ⟨.image url title (alt ++ text), table, outline, codeBlocks, state⟩

theorem callsOnce_enter (tag : Tag) : CallsOnce inHeading fun o => (w.withOutline o).enter tag := by
  cases tag with
  | heading level => exact ⟨.openHeading level, [], w, fun _ _ => rfl⟩
  | emphasis | strong | strikethrough | link url title => exact w.callsOnce_inline _ _
  | fencedCode info => exact callsOnce_of_outline [] { w with capture := .code info "" }
  | indentedCode => exact callsOnce_of_outline [] { w with capture := .code "" "" }
  | image url title => exact callsOnce_of_outline [] { w with capture := .image url title "" }
  | table alignments => exact callsOnce_of_outline _ { w with table := ⟨alignments, 0, false⟩ }
  | tableHead =>
    exact callsOnce_of_outline _ { w with table := { w.table with inHead := true, column := 0 } }
  | tableRow => exact callsOnce_of_outline _ { w with table := { w.table with column := 0 } }
  | tableCell =>
    exact callsOnce_of_outline [.markup ("<" ++ w.table.cellTag ++ w.table.cellStyle ++ ">")] w
  | _ => exact callsOnce_of_outline _ w

theorem callsOnce_leave (tag : TagEnd) :
    CallsOnce inHeading fun o => leave s (w.withOutline o) tag := by
  obtain ⟨capture, table, outline, codeBlocks, state⟩ := w
  cases tag with
  | heading =>
    exact ⟨.close, [], ⟨capture, table, outline, codeBlocks, state⟩, fun o _ => leave_heading s _⟩
  | codeBlock =>
    cases capture with
    | code info source =>
      exact CallsOnce.congr
        (callsOnce_of_outline
          [CodeBlock.placed ⟨info, source⟩ (offer s.handler state codeBlocks ⟨info, source⟩).1]
          ⟨.nothing, table, outline, codeBlocks + 1,
            (offer s.handler state codeBlocks ⟨info, source⟩).2⟩)
        fun o _ => finishCode_eq s ⟨.nothing, table, o, codeBlocks, state⟩ info source
    | nothing | image url title alt =>
      exact callsOnce_of_outline [] ⟨.nothing, table, outline, codeBlocks, state⟩
  | image =>
    cases capture with
    | image url title alt =>
      exact callsOnce_inline ⟨.nothing, table, outline, codeBlocks, state⟩ alt _
    | nothing | code info source =>
      exact callsOnce_of_outline [] ⟨.nothing, table, outline, codeBlocks, state⟩
  | emphasis | strong | strikethrough | link => exact callsOnce_inline _ _ _
  | tableHead =>
    exact callsOnce_of_outline _
      ⟨capture, { table with inHead := false }, outline, codeBlocks, state⟩
  | tableCell =>
    exact callsOnce_of_outline [.markup ("</" ++ table.cellTag ++ ">")]
      ⟨capture, { table with column := table.column + 1 }, outline, codeBlocks, state⟩
  | list ordered => cases ordered <;> exact callsOnce_of_outline _ _
  | _ => exact callsOnce_of_outline _ _

/-- **A step looks at the outline only for whether a heading is open.** -/
theorem callsOnce_step (event : Event) :
    CallsOnce inHeading fun o => step s (w.withOutline o) event := by
  cases event with
  | enter tag => exact w.callsOnce_enter tag
  | leave tag => exact w.callsOnce_leave s tag
  | softBreak =>
    refine CallsOnce.congr
      (w.callsOnce_inline " " (if inHeading then " " else if s.breaks then "<br>" else "\n"))
      fun o hopen => ?_
    rw [← hopen]
    rfl
  | text _ | code _ | html _ | inlineHtml _ | hardBreak => exact w.callsOnce_inline _ _
  | taskMarker checked => cases checked <;> exact callsOnce_of_outline _ w
  | _ => exact callsOnce_of_outline _ w

/-- **With and without the title the same is written**, and the writers behind it differ in their
outlines only. -/
theorem exists_run_extracts {on off : Outline} (h : on.Extracts off) (events : List Event) :
    ∃ (fragments : List Fragment) (last : Writer σ) (on' off' : Outline), on'.Extracts off' ∧
      run s (w.withOutline on) events = (fragments, last.withOutline on') ∧
      run s (w.withOutline off) events = (fragments, last.withOutline off') := by
  -- Related outlines have the same heading open, which is all that the next step looks at.
  induction events generalizing w on off with
  | nil => exact ⟨[], w, on, off, h, rfl, rfl⟩
  | cons event events ih =>
    have hopen : on.isOpen = off.isOpen := congrArg Option.isSome h.current
    have hcalls : CallsOnce off.isOpen fun o => step s (w.withOutline o) event :=
      w.callsOnce_step s event
    obtain ⟨c, fragments, next, hstep⟩ := hcalls
    beta_reduce at hstep
    obtain ⟨hheading, hcall⟩ := h.call c
    obtain ⟨more, last, on', off', hlast, hon, hoff⟩ := ih next hcall
    refine ⟨fragments ++ (off.call c).1.toList.map .heading ++ more, last, on', off', hlast, ?_, ?_⟩
    · rw [run_cons, hstep on hopen, hon, hheading]
    · rw [run_cons, hstep off rfl, hoff]

end Writer

/-! ### Renderings -/

theorem renderEvents_of_run {σ : Type} {breaks extractTitle : Bool}
    {handler : Option (FenceHandler σ)} {s : σ} {events : List Event} {fragments : List Fragment}
    {w : Writer σ}
    (h : Writer.run ⟨breaks, handler⟩ (.start extractTitle s) events = (fragments, w)) :
    renderEvents breaks extractTitle handler s events =
      ⟨concatHtml fragments, w.outline.title, w.outline.toc, w.handlerState⟩ := by
  rw [renderEvents, h]

/-- What a document asks a handler, and what the handler's state becomes, is told by the code blocks
of the document, for all options. -/
theorem handlerState_renderEvents {σ : Type} (breaks extractTitle : Bool)
    (handler : Option (FenceHandler σ)) (s : σ) (events : List Event) :
    (renderEvents breaks extractTitle handler s events).handlerState =
      (offerAll handler s 0 (codeBlocks events)).2 := by
  obtain ⟨layout, title, toc, -, hrender⟩ :=
    exists_layout_renderEvents breaks extractTitle events
  rw [hrender]

/-- Of two renderings the one has a title, which is that of the first entry of level 1 in the other;
this entry is not in its contents, and nothing else differs. -/
structure TakesTitle {σ : Type} (titled plain : Rendering σ) : Prop where
  html : titled.html = plain.html
  toc : titled.toc = plain.toc.eraseP TocEntry.isTop
  title : titled.title = (plain.toc.find? TocEntry.isTop).map TocEntry.title
  untitled : plain.title = none

/-- Of two renderings the one has the texts `texts` one after the other, and the other has line
feeds in the places of those that are marked, which are tags for line breaks. Title and contents are
the same. -/
structure TakesBreaks {σ : Type} (isBreak : List Bool) (texts : List String)
    (broken plain : Rendering σ) : Prop where
  title : broken.title = plain.title
  toc : broken.toc = plain.toc
  brokenHtml : broken.html = String.join texts
  plainHtml : plain.html =
    String.join (List.zipWith (fun b text => if b then "\n" else text) isBreak texts)
  breaks : List.Forall₂ (fun b text => b = true → text = "<br>") isBreak texts

/-- **The options of a rendering do not interfere.** Whether the title is extracted does not matter
to the markup. Whether there are line breaks does not matter to title and contents, and in the
markup only to the soft breaks outside headings, descriptions of images and code blocks. Neither of
the two matters to what the handler is asked, and to the state in which it is left. -/
theorem renderEvents_options {σ : Type} (handler : Option (FenceHandler σ)) (s : σ)
    (events : List Event) :
    (∀ breaks : Bool, TakesTitle (renderEvents breaks true handler s events)
      (renderEvents breaks false handler s events)) ∧
    (∀ extractTitle : Bool, TakesBreaks (lineBreaks .nothing false events)
      (Writer.written ⟨true, handler⟩ (.start extractTitle s) events)
      (renderEvents true extractTitle handler s events)
      (renderEvents false extractTitle handler s events)) ∧
    ∀ breaks extractTitle breaks' extractTitle' : Bool,
      (renderEvents breaks extractTitle handler s events).handlerState =
          (renderEvents breaks' extractTitle' handler s events).handlerState ∧
        ∀ asked : FenceHandler σ,
          (renderEvents breaks extractTitle (some asked.recording) (s, []) events).handlerState.2 =
            fences events := by
  refine ⟨fun breaks => ?_, fun extractTitle => ?_, fun _ _ _ _ => ⟨?_, fun asked => ?_⟩⟩
  · obtain ⟨fragments, last, on, off, hlast, hon, hoff⟩ :=
      (Writer.start false s).exists_run_extracts ⟨breaks, handler⟩ Outline.extracts_empty events
    have hrenderOn : renderEvents breaks true handler s events =
        ⟨concatHtml fragments, on.title, on.toc, last.handlerState⟩ := renderEvents_of_run hon
    have hrenderOff : renderEvents breaks false handler s events =
        ⟨concatHtml fragments, off.title, off.toc, last.handlerState⟩ := renderEvents_of_run hoff
    have htold := hlast.told
    rw [Outline.foldl_takeUp_true, List.nil_append, Prod.mk.injEq] at htold
    rw [hrenderOn, hrenderOff]
    exact ⟨rfl, htold.2, htold.1, hlast.untitled⟩
  · obtain ⟨hlast, hwritten, hbreaks⟩ :=
      Writer.run_breaks handler (Writer.start extractTitle s) events
    refine ⟨?_, ?_, ?_, ?_, hbreaks⟩
    · exact congrArg (fun w => w.outline.title) hlast.symm
    · exact congrArg (fun w => w.outline.toc) hlast.symm
    · exact Writer.concatHtml_run _ _ _
    · exact (Writer.concatHtml_run _ _ _).trans (congrArg String.join hwritten)
  · rw [handlerState_renderEvents, handlerState_renderEvents]
  · rw [handlerState_renderEvents, offerAll_recording]
    rfl

end DiagramDoc
