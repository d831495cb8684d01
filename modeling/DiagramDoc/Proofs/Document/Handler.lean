import Mathlib.Data.List.ReduceOption
import DiagramDoc.Proofs.Document.Actions

/-! # The handler of fences

A handler is asked about the code blocks of a document that have a language, one after the other,
and what it answers is all that it changes. To say so, the document is cut at its code blocks: the
texts between them are fixed before any handler is known, and so is the writer's state but for the
state of the handler.
-/

namespace DiagramDoc

open Html

/-! ### What a handler is asked -/

namespace CodeBlock

/-- The code block as the fence that a handler is asked about; one without a language is none. -/
def fence? (block : CodeBlock) (index : Nat) : Option Fence :=
  let parsed := InfoString.parse block.info
  if parsed.language = "" then none
  else some ⟨parsed.language, parsed.attrs, block.source, index⟩

/-- The code block as code. -/
def code (block : CodeBlock) : Fragment :=
  let language := (InfoString.parse block.info).language
  .code (if language = "" then Writer.plainLanguage else language) block.source

/-- What is written in the place of a code block. -/
def placed (block : CodeBlock) : Option String → Fragment
  | some html => .claimed html
  | none => block.code

/-- What stands in the place of a code block: the answer of a handler, or the code. -/
def shown (block : CodeBlock) (answer : Option String) : String := answer.getD block.code.html

theorem html_placed (block : CodeBlock) (answer : Option String) :
    (block.placed answer).html = block.shown answer := by
  cases answer <;> rfl

end CodeBlock

/-- The fences among code blocks, each with its place; the first block has the place `index`. -/
def fencesFrom (index : Nat) (blocks : List CodeBlock) : List Fence :=
  (blocks.zipIdx index).filterMap fun place => place.1.fence? place.2

/-- The fences of a document, each with the number of code blocks in front of it. -/
def fences (events : List Event) : List Fence := fencesFrom 0 (codeBlocks events)

theorem fencesFrom_cons (index : Nat) (block : CodeBlock) (rest : List CodeBlock) :
    fencesFrom index (block :: rest) =
      (block.fence? index).toList ++ fencesFrom (index + 1) rest := by
  rw [fencesFrom, List.zipIdx_cons, List.filterMap_cons]
  cases hfence : block.fence? index <;> rfl

theorem CodeBlock.index_of_fence? {block : CodeBlock} {index : Nat} {fence : Fence}
    (h : block.fence? index = some fence) : fence.index = index := by
  rw [fence?] at h
  split at h
  · cases h
  · rw [← Option.some.inj h]

/-- Fences are numbered in order, whether or not every block is one. -/
theorem pairwise_fencesFrom (index : Nat) (blocks : List CodeBlock) :
    (∀ fence ∈ fencesFrom index blocks, index ≤ fence.index) ∧
      (fencesFrom index blocks).Pairwise (·.index < ·.index) := by
  induction blocks generalizing index with
  | nil => exact ⟨List.forall_mem_nil _, List.Pairwise.nil⟩
  | cons block rest ih =>
    obtain ⟨hle, hpairwise⟩ := ih (index + 1)
    rw [fencesFrom_cons]
    cases hfence : block.fence? index with
    | none => exact ⟨fun fence hmem => (Nat.le_succ index).trans (hle fence hmem), hpairwise⟩
    | some first =>
      have hfirst := CodeBlock.index_of_fence? hfence
      refine ⟨List.forall_mem_cons.2 ⟨hfirst.ge, fun fence hmem => ?_⟩,
        List.pairwise_cons.2 ⟨fun fence hmem => ?_, hpairwise⟩⟩
      · exact (Nat.le_succ index).trans (hle fence hmem)
      · rw [hfirst]
        exact hle fence hmem

section Offers

variable {σ : Type}

/-- What becomes of the code block at the place `index`, and the handler's state behind it. -/
def offer (handler : Option (FenceHandler σ)) (s : σ) (index : Nat) (block : CodeBlock) :
    Option String × σ :=
  match handler with
  | none => (none, s)
  | some handler => ((block.fence? index).map (handler.answer s)).getD (none, s)

/-- What becomes of code blocks, one after the other. -/
def offerAll (handler : Option (FenceHandler σ)) (s : σ) (index : Nat) :
    List CodeBlock → List (Option String) × σ
  | [] => ([], s)
  | block :: rest =>
    let (answer, s) := offer handler s index block
    let (answers, s) := offerAll handler s (index + 1) rest
    (answer :: answers, s)

variable {handler : FenceHandler σ} {s : σ} {index : Nat} {block : CodeBlock}

theorem offer_of_fence?_eq_none (h : block.fence? index = none) :
    offer (some handler) s index block = (none, s) := by
  rw [offer, h]
  rfl

theorem offer_of_fence?_eq_some {fence : Fence} (h : block.fence? index = some fence) :
    offer (some handler) s index block = handler.answer s fence := by
  rw [offer, h]
  rfl

theorem offerAll_cons (handler : Option (FenceHandler σ)) (s : σ) (index : Nat) (block : CodeBlock)
    (rest : List CodeBlock) : offerAll handler s index (block :: rest) =
      ((offer handler s index block).1 ::
          (offerAll handler (offer handler s index block).2 (index + 1) rest).1,
        (offerAll handler (offer handler s index block).2 (index + 1) rest).2) := rfl

theorem offerAll_none (s : σ) (index : Nat) (blocks : List CodeBlock) :
    offerAll none s index blocks = (blocks.map fun _ => none, s) := by
  induction blocks generalizing index with
  | nil => rfl
  | cons block rest ih =>
    have hoffer : offer none s index block = (none, s) := rfl
    rw [offerAll_cons, hoffer, ih]
    rfl

/-- A handler that claims nothing, whatever it does with its state. -/
def FenceHandler.declining (advance : σ → Fence → σ) : FenceHandler σ where
  answer s fence := (none, advance s fence)

theorem offerAll_declining (advance : σ → Fence → σ) (s : σ) (index : Nat)
    (blocks : List CodeBlock) :
    (offerAll (some (.declining advance)) s index blocks).1 = blocks.map fun _ => none := by
  induction blocks generalizing s index with
  | nil => rfl
  | cons block rest ih =>
    rw [offerAll_cons, ih, List.map_cons]
    cases hfence : block.fence? index with
    | none => rw [offer_of_fence?_eq_none hfence]
    | some fence => rw [offer_of_fence?_eq_some hfence, FenceHandler.declining]

/-- A handler that answers as `handler` does and writes down what it is asked. -/
def FenceHandler.recording (handler : FenceHandler σ) : FenceHandler (σ × List Fence) where
  answer s fence :=
    ((handler.answer s.1 fence).1, (handler.answer s.1 fence).2, s.2 ++ [fence])

theorem FenceHandler.answer_recording (handler : FenceHandler σ) (s : σ) (asked : List Fence)
    (fence : Fence) : handler.recording.answer (s, asked) fence =
      ((handler.answer s fence).1, (handler.answer s fence).2, asked ++ [fence]) := rfl

theorem offerAll_recording (handler : FenceHandler σ) (s : σ) (asked : List Fence) (index : Nat)
    (blocks : List CodeBlock) : offerAll (some handler.recording) (s, asked) index blocks =
      ((offerAll (some handler) s index blocks).1, (offerAll (some handler) s index blocks).2,
        asked ++ fencesFrom index blocks) := by
  induction blocks generalizing s asked index with
  | nil =>
    rw [offerAll, offerAll, fencesFrom, List.zipIdx_nil, List.filterMap_nil, List.append_nil]
  | cons block rest ih =>
    rw [offerAll_cons, offerAll_cons, fencesFrom_cons]
    cases hfence : block.fence? index with
    | none =>
      rw [offer_of_fence?_eq_none hfence, offer_of_fence?_eq_none hfence, ih]
      rfl
    | some fence =>
      rw [offer_of_fence?_eq_some hfence, offer_of_fence?_eq_some hfence,
        FenceHandler.answer_recording, ih, Option.toList_some, List.append_assoc]

end Offers

/-! ### Texts with places -/

/-- The text in front of the first place, and the text behind each place. In a document the places
are those of its code blocks, or of its headings. -/
structure Layout where
  first : String
  behind : List String
  deriving DecidableEq, Repr

namespace Layout

/-- The text with `places` filled in. -/
def fill (l : Layout) (places : List String) : String :=
  l.first ++ String.join (List.zipWith (· ++ ·) places l.behind)

theorem fill_text (text : String) (l : Layout) (places : List String) :
    fill ⟨text ++ l.first, l.behind⟩ places = text ++ l.fill places :=
  String.append_assoc

theorem fill_place (l : Layout) (place : String) (places : List String) :
    fill ⟨"", l.first :: l.behind⟩ (place :: places) = place ++ l.fill places := by
  rw [fill, List.zipWith_cons_cons, String.join_cons, String.empty_append, String.append_assoc,
    fill]

end Layout

/-! ### One action -/

def Fragment.claimed? : Fragment → Option String
  | claimed html => some html
  | _ => none

namespace Writer

/-- An action asks the handler nothing: it writes the same for every handler and every state of it,
and counts no code block. -/
structure IsUnasked (breaks : Bool) (w : Writer Unit) (a : Action) : Prop where
  capture : (a.perform ⟨breaks, none⟩ w).2.capture = a.next w.capture
  codeBlocks : (a.perform ⟨breaks, none⟩ w).2.codeBlocks = w.codeBlocks
  claimed : (a.perform ⟨breaks, none⟩ w).1.filterMap Fragment.claimed? = []
  withState : ∀ (σ : Type) (handler : Option (FenceHandler σ)) (s : σ),
    a.perform ⟨breaks, handler⟩ (w.withState s) =
      ((a.perform ⟨breaks, none⟩ w).1, (a.perform ⟨breaks, none⟩ w).2.withState s)

variable (breaks : Bool) (w : Writer Unit)

theorem isUnasked_inline (text html : String) : w.IsUnasked breaks (.inline text html) := by
  obtain ⟨capture, table, outline, codeBlocks, s⟩ := w
  cases capture with
  | nothing =>
    cases hopen : outline.isOpen with
    | true =>
      have hpush {σ : Type} (s : σ) : (⟨.nothing, table, outline, codeBlocks, s⟩ : Writer σ).inline
          text html = ([], ⟨.nothing, table, outline.push text html, codeBlocks, s⟩) := if_pos hopen
      refine ⟨?_, ?_, ?_, fun σ _ s => ?_⟩ <;>
        simp only [Action.perform, hpush, withState] <;> rfl
    | false =>
      have hemit {σ : Type} (s : σ) : (⟨.nothing, table, outline, codeBlocks, s⟩ : Writer σ).inline
          text html = emit ⟨.nothing, table, outline, codeBlocks, s⟩ html :=
        if_neg (by simp [hopen])
      refine ⟨?_, ?_, ?_, fun σ _ s => ?_⟩ <;>
        simp only [Action.perform, hemit, withState] <;> rfl
  | code info source => exact ⟨rfl, rfl, rfl, fun _ _ _ => rfl⟩
  | image url title alt => exact ⟨rfl, rfl, rfl, fun _ _ _ => rfl⟩

/-- Only the end of a code block asks the handler. -/
theorem isUnasked_of_finished? {a : Action} (h : a.finished? = none) : w.IsUnasked breaks a := by
  cases a with
  | inline text html => exact w.isUnasked_inline breaks text html
  | describe alt html =>
    obtain ⟨hcapture, hcount, hclaimed, hstate⟩ :=
      isUnasked_inline breaks { w with capture := .nothing } alt html
    exact ⟨hcapture, hcount, hclaimed, hstate⟩
  | closeHeading =>
    refine ⟨rfl, rfl, ?_, fun _ _ _ => rfl⟩
    rw [Action.perform, List.filterMap_map]
    exact List.filterMap_eq_nil_iff.2 fun _ _ => rfl
  | finish block => cases h
  | silent | write html table | collect capture | openHeading level =>
    exact ⟨rfl, rfl, rfl, fun _ _ _ => rfl⟩

/-- The end of a code block is where the handler is asked. -/
theorem finishCode_eq {σ : Type} (settings : WriterSettings σ) (w : Writer σ)
    (info source : String) :
    finishCode settings w info source =
      ([CodeBlock.placed ⟨info, source⟩
          (offer settings.handler w.handlerState w.codeBlocks ⟨info, source⟩).1],
        { w with
          codeBlocks := w.codeBlocks + 1
          handlerState :=
            (offer settings.handler w.handlerState w.codeBlocks ⟨info, source⟩).2 }) := by
  obtain ⟨breaks, handler⟩ := settings
  rw [finishCode]
  dsimp only
  by_cases hlanguage : (InfoString.parse info).language = ""
  · have hfence : CodeBlock.fence? ⟨info, source⟩ w.codeBlocks = none := if_pos hlanguage
    have hcode : CodeBlock.code ⟨info, source⟩ = .code plainLanguage source := by
      simp only [CodeBlock.code, if_pos hlanguage]
    rw [if_pos hlanguage]
    cases handler with
    | none => rw [offer, CodeBlock.placed, hcode]
    | some handler => rw [offer_of_fence?_eq_none hfence, CodeBlock.placed, hcode]
  · have hfence : CodeBlock.fence? ⟨info, source⟩ w.codeBlocks =
        some ⟨(InfoString.parse info).language, (InfoString.parse info).attrs, source,
          w.codeBlocks⟩ := if_neg hlanguage
    have hcode : CodeBlock.code ⟨info, source⟩ = .code (InfoString.parse info).language source := by
      simp only [CodeBlock.code, if_neg hlanguage]
    rw [if_neg hlanguage]
    cases handler with
    | none => rw [offer, CodeBlock.placed, hcode]
    | some handler =>
      rw [offer_of_fence?_eq_some hfence]
      dsimp only
      split
      · next hanswer => rw [hanswer, CodeBlock.placed]
      · next hanswer => rw [hanswer, CodeBlock.placed, hcode]

/-! ### All events -/

/-- What is written fills the layout with what became of the code blocks, claims what was claimed,
and leaves the writer `last` behind but for the handler's state. -/
structure Fills {σ : Type} (layout : Layout) (last : Writer Unit) (blocks : List CodeBlock)
    (offered : List (Option String) × σ) (written : List Fragment × Writer σ) : Prop where
  html : concatHtml written.1 = layout.fill (List.zipWith CodeBlock.shown blocks offered.1)
  claimed : written.1.filterMap Fragment.claimed? = offered.1.reduceOption
  last : written.2 = last.withState offered.2

section Fills

variable {σ : Type} {layout : Layout} {last : Writer Unit} {blocks : List CodeBlock}
  {offered : List (Option String) × σ} {written : List Fragment × Writer σ}

theorem Fills.text (h : Fills layout last blocks offered written) {fragments : List Fragment}
    (hfragments : fragments.filterMap Fragment.claimed? = []) :
    Fills ⟨concatHtml fragments ++ layout.first, layout.behind⟩ last blocks offered
      (fragments ++ written.1, written.2) := by
  refine ⟨?_, ?_, h.last⟩
  · rw [concatHtml_append, h.html, Layout.fill_text]
  · rw [List.filterMap_append, hfragments, List.nil_append, h.claimed]

theorem Fills.place (h : Fills layout last blocks offered written) (block : CodeBlock)
    (answer : Option String) :
    Fills ⟨"", layout.first :: layout.behind⟩ last (block :: blocks)
      (answer :: offered.1, offered.2) ([block.placed answer] ++ written.1, written.2) := by
  refine ⟨?_, ?_, h.last⟩
  · have hplaced : concatHtml [block.placed answer] = block.shown answer := by
      rw [← block.html_placed]
      exact String.empty_append
    rw [concatHtml_append, hplaced, h.html, List.zipWith_cons_cons, Layout.fill_place]
  · rw [List.singleton_append, List.filterMap_cons, h.claimed]
    cases answer <;> rfl

end Fills

theorem run_cons {σ : Type} (settings : WriterSettings σ) (w : Writer σ) (event : Event)
    (events : List Event) : run settings w (event :: events) =
      ((step settings w event).1 ++ (run settings (step settings w event).2 events).1,
        (run settings (step settings w event).2 events).2) := rfl

/-- **A run fills a layout that does not depend on the handler**, and the writer behind it does not
either but for the handler's state. -/
theorem exists_fills_run (breaks : Bool) (w : Writer Unit) (events : List Event) :
    ∃ (layout : Layout) (last : Writer Unit),
      layout.behind.length = (w.capture.blocks events).length ∧
      ∀ (σ : Type) (handler : Option (FenceHandler σ)) (s : σ),
        Fills layout last (w.capture.blocks events)
          (offerAll handler s w.codeBlocks (w.capture.blocks events))
          (run ⟨breaks, handler⟩ (w.withState s) events) := by
  induction events generalizing w with
  | nil =>
    have hblocks : w.capture.blocks [] = [] := by cases w.capture <;> rfl
    rw [hblocks]
    exact ⟨⟨"", []⟩, w, rfl, fun _ _ _ => ⟨rfl, rfl, rfl⟩⟩
  | cons event events ih =>
    obtain ⟨a, hnext, hfinished, hstep⟩ := exists_callsFor breaks w event
    rw [Capture.blocks_cons, hnext, hfinished]
    cases hasked : a.finished? with
    | none =>
      obtain ⟨hcapture, hcount, hclaimed, hstate⟩ := w.isUnasked_of_finished? breaks hasked
      obtain ⟨layout, last, hlength, hrest⟩ := ih (a.perform ⟨breaks, none⟩ w).2
      rw [hcapture] at hlength hrest
      rw [hcount] at hrest
      refine ⟨⟨concatHtml (a.perform ⟨breaks, none⟩ w).1 ++ layout.first, layout.behind⟩, last,
        hlength, fun σ handler s => ?_⟩
      rw [run_cons, hstep, hstate]
      exact (hrest σ handler s).text hclaimed
    | some block =>
      obtain rfl : a = .finish block := Action.eq_finish hasked
      obtain ⟨layout, last, hlength, hrest⟩ :=
        ih ⟨.nothing, w.table, w.outline, w.codeBlocks + 1, ()⟩
      refine ⟨⟨"", layout.first :: layout.behind⟩, last, congrArg Nat.succ hlength,
        fun σ handler s => ?_⟩
      rw [run_cons, hstep, Action.perform, finishCode_eq]
      exact (hrest σ handler _).place block _

end Writer

/-- All renderings of the same events, with a handler or without one. -/
theorem exists_layout_renderEvents (breaks extractTitle : Bool) (events : List Event) :
    ∃ (layout : Layout) (title : Option String) (toc : List TocEntry),
      layout.behind.length = (codeBlocks events).length ∧
      ∀ (σ : Type) (handler : Option (FenceHandler σ)) (s : σ),
        renderEvents breaks extractTitle handler s events =
          ⟨layout.fill (List.zipWith CodeBlock.shown (codeBlocks events)
              (offerAll handler s 0 (codeBlocks events)).1),
            title, toc, (offerAll handler s 0 (codeBlocks events)).2⟩ := by
  obtain ⟨layout, last, hlength, hrun⟩ :=
    Writer.exists_fills_run breaks (.start extractTitle ()) events
  refine ⟨layout, last.outline.title, last.outline.toc, hlength, fun σ handler s => ?_⟩
  obtain ⟨hhtml, -, hlast⟩ := hrun σ handler s
  have hrender : renderEvents breaks extractTitle handler s events =
      ⟨concatHtml (Writer.run ⟨breaks, handler⟩ (.start extractTitle s) events).1,
        (Writer.run ⟨breaks, handler⟩ (.start extractTitle s) events).2.outline.title,
        (Writer.run ⟨breaks, handler⟩ (.start extractTitle s) events).2.outline.toc,
        (Writer.run ⟨breaks, handler⟩ (.start extractTitle s) events).2.handlerState⟩ := rfl
  have hstart : (Writer.start extractTitle ()).withState s = .start extractTitle s := rfl
  rw [hstart] at hhtml hlast
  rw [hrender, hhtml, hlast]
  rfl

theorem zipWith_shown_none (blocks : List CodeBlock) :
    List.zipWith CodeBlock.shown blocks (blocks.map fun _ => none) =
      blocks.map fun block => block.code.html := by
  induction blocks with
  | nil => rfl
  | cons block rest ih =>
    rw [List.map_cons, List.zipWith_cons_cons, ih]
    rfl

/-- A rendering with a handler shows what becomes of the code blocks in the places of a layout, as a
rendering without one shows the code, and nothing else depends on the handler. A handler that writes
down its questions writes down the fences of the document, each once and in order, and one that
claims nothing leaves the document as it is. -/
structure Layout.IsFilled {σ : Type} (l : Layout) (breaks extractTitle : Bool)
    (events : List Event) (handler : FenceHandler σ) (s : σ) : Prop where
  plain : (renderEvents breaks extractTitle none s events).html =
    l.fill ((codeBlocks events).map fun block => block.code.html)
  html : (renderEvents breaks extractTitle (some handler) s events).html =
    l.fill (List.zipWith CodeBlock.shown (codeBlocks events)
      (offerAll (some handler) s 0 (codeBlocks events)).1)
  title : (renderEvents breaks extractTitle (some handler) s events).title =
    (renderEvents breaks extractTitle none s events).title
  toc : (renderEvents breaks extractTitle (some handler) s events).toc =
    (renderEvents breaks extractTitle none s events).toc
  state : (renderEvents breaks extractTitle (some handler) s events).handlerState =
    (offerAll (some handler) s 0 (codeBlocks events)).2
  recorded : (renderEvents breaks extractTitle (some handler.recording) (s, []) events).html =
    (renderEvents breaks extractTitle (some handler) s events).html
  asked : (renderEvents breaks extractTitle (some handler.recording) (s, []) events).handlerState =
    ((renderEvents breaks extractTitle (some handler) s events).handlerState, fences events)
  declined : ∀ advance : σ → Fence → σ,
    (renderEvents breaks extractTitle (some (.declining advance)) s events).html =
      (renderEvents breaks extractTitle none s events).html

/-- **A handler replaces the code blocks that it claims and changes nothing else.** The texts around
the code blocks are the same for every handler. Among the code blocks are those that hold text
events only, each with its texts. -/
theorem renderEvents_handler (breaks extractTitle : Bool) (events : List Event) :
    (∃ layout : Layout, layout.behind.length = (codeBlocks events).length ∧
      ∀ (σ : Type) (handler : FenceHandler σ) (s : σ),
        layout.IsFilled breaks extractTitle events handler s) ∧
      ∀ (before : List Event) (info : String) (texts : List String) (behind : List Event),
        codeBlocks (before ++ .enter (.fencedCode info) ::
            (texts.map Event.text ++ .leave .codeBlock :: behind)) =
          codeBlocks before ++ ⟨info, String.join texts⟩ :: codeBlocks behind := by
  refine ⟨?_, codeBlocks_fencedCode⟩
  obtain ⟨layout, title, toc, hlength, hrender⟩ :=
    exists_layout_renderEvents breaks extractTitle events
  refine ⟨layout, hlength, fun σ handler s => ?_⟩
  have hplain : renderEvents breaks extractTitle none s events =
      ⟨layout.fill ((codeBlocks events).map fun block => block.code.html), title, toc, s⟩ := by
    rw [hrender, offerAll_none, zipWith_shown_none]
  have hhandled := hrender σ (some handler) s
  have hrecording := hrender _ (some handler.recording) (s, [])
  rw [offerAll_recording, List.nil_append] at hrecording
  constructor
  case plain => rw [hplain]
  case html => rw [hhandled]
  case title => rw [hhandled, hplain]
  case toc => rw [hhandled, hplain]
  case state => rw [hhandled]
  case recorded => rw [hrecording, hhandled]
  case asked => rw [hrecording, hhandled, fences]
  case declined =>
    intro advance
    rw [hplain, hrender, offerAll_declining, zipWith_shown_none]

end DiagramDoc
