import DiagramDoc.Proofs.Document.CodeBlocks

/-! # What an event has a writer do

There are many events and few things that a writer does with one: it writes markup, passes inline
content on, starts or ends the collecting of a text, opens or closes a heading, or finishes a code
block. What holds of every step is shown for each of these. Which of them an event calls for depends
on the document, and on the handler of fences never.
-/

namespace DiagramDoc

open Html

inductive Action where
  | silent
  | write (html : String) (table : TableCursor)
  | inline (text html : String)
  | collect (capture : Capture)
  /-- Ends the collecting of a text and passes an image on. -/
  | describe (alt html : String)
  | openHeading (level : Nat)
  | closeHeading
  | finish (block : CodeBlock)
  deriving DecidableEq, Repr

namespace Action

def perform {σ : Type} (settings : WriterSettings σ) (w : Writer σ) :
    Action → List Fragment × Writer σ
  | silent => ([], w)
  | write html table => ([.markup html], { w with table := table })
  | inline text html => w.inline text html
  | collect capture => ([], { w with capture := capture })
  | describe alt html => { w with capture := .nothing }.inline alt html
  | openHeading level => ([], { w with outline := w.outline.openHeading level })
  | closeHeading =>
    (w.outline.close.1.toList.map .heading, { w with outline := w.outline.close.2 })
  | finish block =>
    Writer.finishCode settings { w with capture := .nothing } block.info block.source

/-- What is collected behind the action. -/
def next (c : Capture) : Action → Capture
  | silent | write _ _ | openHeading _ | closeHeading => c
  | inline text _ => c.append text
  | collect capture => capture
  | describe _ _ | finish _ => .nothing

def finished? : Action → Option CodeBlock
  | finish block => some block
  | _ => none

theorem eq_finish {a : Action} {block : CodeBlock} (h : a.finished? = some block) :
    a = finish block := by
  cases a with
  | finish b => rw [Option.some.inj h]
  | _ => cases h

end Action

namespace Writer

variable {σ : Type}

/-- Unless a text is collected, an open heading gets inline content. -/
theorem inline_of_isOpen {w : Writer σ} (hcapture : w.capture = .nothing)
    (hopen : w.outline.isOpen = true) (text html : String) :
    w.inline text html = ([], { w with outline := w.outline.push text html }) := by
  rw [inline, hcapture]
  exact if_pos hopen

theorem inline_of_isOpen_eq_false {w : Writer σ} (hcapture : w.capture = .nothing)
    (hclosed : w.outline.isOpen = false) (text html : String) :
    w.inline text html = ([.markup html], w) := by
  rw [inline, hcapture]
  exact if_neg (by simp [hclosed])

def withState {τ : Type} (w : Writer τ) (s : σ) : Writer σ :=
  ⟨w.capture, w.table, w.outline, w.codeBlocks, s⟩

/-- The action does what the event calls for, whoever is asked about fences. -/
structure CallsFor (breaks : Bool) (w : Writer Unit) (event : Event) (a : Action) : Prop where
  next : w.capture.next event = a.next w.capture
  finished? : w.capture.finished? event = a.finished?
  step : ∀ (σ : Type) (handler : Option (FenceHandler σ)) (s : σ),
    Writer.step ⟨breaks, handler⟩ (w.withState s) event =
      a.perform ⟨breaks, handler⟩ (w.withState s)

variable (breaks : Bool) (w : Writer Unit)

theorem exists_callsFor_enter (tag : Tag) : ∃ a, CallsFor breaks w (.enter tag) a := by
  have hsame : w.capture.append "" = w.capture := w.capture.append_nil
  have hnone : w.capture.finished? (.enter tag) = none := w.capture.finished?_eq_none nofun
  cases tag with
  | heading level => exact ⟨.openHeading level, hsame, hnone, fun _ _ _ => rfl⟩
  | fencedCode info => exact ⟨.collect (.code info ""), rfl, hnone, fun _ _ _ => rfl⟩
  | indentedCode => exact ⟨.collect (.code "" ""), rfl, hnone, fun _ _ _ => rfl⟩
  | image url title => exact ⟨.collect (.image url title ""), rfl, hnone, fun _ _ _ => rfl⟩
  | tableHead =>
    exact ⟨.write "<thead><tr>" { w.table with inHead := true, column := 0 }, hsame, hnone,
      fun _ _ _ => rfl⟩
  | tableRow =>
    exact ⟨.write "<tr>" { w.table with column := 0 }, hsame, hnone, fun _ _ _ => rfl⟩
  | tableCell =>
    exact ⟨.write ("<" ++ w.table.cellTag ++ w.table.cellStyle ++ ">") w.table, hsame, hnone,
      fun _ _ _ => rfl⟩
  | emphasis | strong | strikethrough | link url title =>
    exact ⟨.inline "" _, rfl, hnone, fun _ _ _ => rfl⟩
  | htmlBlock | footnote | definitionList | definitionTitle | definition | superscript | subscript
  | metadata => exact ⟨.silent, hsame, hnone, fun _ _ _ => rfl⟩
  | _ => exact ⟨.write _ _, hsame, hnone, fun _ _ _ => rfl⟩

theorem exists_callsFor_leave (tag : TagEnd) : ∃ a, CallsFor breaks w (.leave tag) a := by
  obtain ⟨capture, table, outline, codeBlocks, s⟩ := w
  have hsame : capture.append "" = capture := capture.append_nil
  have hnone {tag : TagEnd} (htag : tag ≠ .codeBlock) : capture.finished? (.leave tag) = none := by
    apply capture.finished?_eq_none
    rintro ⟨⟩
    exact htag rfl
  cases tag with
  | heading =>
    exact ⟨.closeHeading, hsame, hnone nofun, fun _ handler _ =>
      leave_heading ⟨breaks, handler⟩ _⟩
  | codeBlock =>
    cases capture with
    | code info source => exact ⟨.finish ⟨info, source⟩, rfl, rfl, fun _ _ _ => rfl⟩
    | nothing | image url title alt => exact ⟨.collect .nothing, rfl, rfl, fun _ _ _ => rfl⟩
  | image =>
    cases capture with
    | image url title alt => exact ⟨.describe alt _, rfl, rfl, fun _ _ _ => rfl⟩
    | nothing | code info source => exact ⟨.collect .nothing, rfl, rfl, fun _ _ _ => rfl⟩
  | tableHead =>
    exact ⟨.write "</tr></thead><tbody>" { table with inHead := false }, hsame, hnone nofun,
      fun _ _ _ => rfl⟩
  | tableCell =>
    exact ⟨.write ("</" ++ table.cellTag ++ ">") { table with column := table.column + 1 }, hsame,
      hnone nofun, fun _ _ _ => rfl⟩
  | list ordered =>
    cases ordered <;> exact ⟨.write _ _, hsame, hnone nofun, fun _ _ _ => rfl⟩
  | emphasis | strong | strikethrough | link =>
    exact ⟨.inline "" _, rfl, hnone nofun, fun _ _ _ => rfl⟩
  | htmlBlock | footnote | definitionList | definitionTitle | definition | superscript | subscript
  | metadata => exact ⟨.silent, hsame, hnone nofun, fun _ _ _ => rfl⟩
  | _ => exact ⟨.write _ _, hsame, hnone nofun, fun _ _ _ => rfl⟩

/-- **Each event calls for one action.** -/
theorem exists_callsFor (event : Event) : ∃ a, CallsFor breaks w event a := by
  have hsame : w.capture.append "" = w.capture := w.capture.append_nil
  cases event with
  | enter tag => exact exists_callsFor_enter breaks w tag
  | leave tag => exact exists_callsFor_leave breaks w tag
  | softBreak =>
    exact ⟨.inline " " (if w.outline.isOpen then " " else if breaks then "<br>" else "\n"), rfl,
      w.capture.finished?_eq_none nofun, fun _ _ _ => rfl⟩
  | text _ | code _ | html _ | inlineHtml _ | hardBreak =>
    exact ⟨.inline _ _, rfl, w.capture.finished?_eq_none nofun, fun _ _ _ => rfl⟩
  | taskMarker checked =>
    cases checked <;>
      exact ⟨.write _ _, hsame, w.capture.finished?_eq_none nofun, fun _ _ _ => rfl⟩
  | rule => exact ⟨.write _ _, hsame, w.capture.finished?_eq_none nofun, fun _ _ _ => rfl⟩
  | footnoteReference _ | inlineMath _ | displayMath _ =>
    exact ⟨.silent, hsame, w.capture.finished?_eq_none nofun, fun _ _ _ => rfl⟩

end Writer

end DiagramDoc
