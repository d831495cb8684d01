import DiagramDoc.Proofs.Document.Attributes
import DiagramDoc.Proofs.Document.Handler
import DiagramDoc.Rendering

/-! # One processor for many documents

A processor that is in use keeps nothing but the warnings that have not been taken from it, and it
does not look at them when it answers. So every answer is the one that it would give when asked for
the first time, and every warning is handed over once. A renderer takes the warnings after each
document, and so it renders each document as a fresh one does.
-/

namespace DiagramDoc

namespace Processor

/-! ### A history of calls -/

/-- What a processor answers to a question about a diagram that is the first it is asked. -/
def Call.answer? (p : Processor) : Call → Option Reply
  | .fence f => some (.markup ((p.answer? f).map fun answer => answer.1.html))
  | .placeholder block attrs index => some (.placeholder (p.placeholder block attrs index).1)
  | .takeWarnings => none

/-- The warnings about a fence. -/
def warned (p : Processor) (fence : Fence) : List Warning := (p.answer? fence).elim [] Prod.snd

/-- The warnings that a call gives rise to. -/
def Call.warnings (p : Processor) : Call → List Warning
  | .fence f => p.warned f
  | .placeholder block attrs index => (p.placeholder block attrs index).2
  | .takeWarnings => []

/-- The warnings that a reply hands over. -/
def Reply.drained : Reply → List Warning
  | warnings taken => taken
  | markup _ | placeholder _ => []

variable (p : Processor) (pending : List Warning)

theorem answer_handler (fence : Fence) : p.handler.answer pending fence =
    ((p.answer? fence).map fun answer => answer.1.html, pending ++ p.warned fence) := by
  rw [handler, warned]
  dsimp only
  cases p.answer? fence with
  | none => exact congrArg (Prod.mk none) (List.append_nil pending).symm
  | some answer => rfl

theorem call_answer {c : Call} {answer : Reply} (h : answer ∈ c.answer? p) :
    (p.call pending c).1 = answer := by
  cases c with
  | fence f =>
    rw [call, answer_handler]
    exact Option.mem_some_iff.1 h
  | placeholder block attrs index => exact Option.mem_some_iff.1 h
  | takeWarnings => cases h

/-- A call either hands over what is pending or adds its own warnings. -/
theorem call_warnings (c : Call) :
    (p.call pending c).1.drained ++ (p.call pending c).2 = pending ++ c.warnings p := by
  cases c with
  | fence f =>
    rw [call, answer_handler]
    rfl
  | placeholder block attrs index => rfl
  | takeWarnings => rfl

/-- The replies to calls, and what is pending behind them: each question is answered as if it were
the first, and what is handed over and what is still pending are, in order, what was pending before
and the warnings of the calls. -/
structure Serves (calls : List Call) (served : List Reply × List Warning) : Prop where
  answers : List.Forall₂ (fun c reply => ∀ answer ∈ c.answer? p, reply = answer) calls served.1
  warnings : served.1.flatMap Reply.drained ++ served.2 = pending ++ calls.flatMap (·.warnings p)

theorem run_cons (c : Call) (calls : List Call) : p.run pending (c :: calls) =
    ((p.call pending c).1 :: (p.run (p.call pending c).2 calls).1,
      (p.run (p.call pending c).2 calls).2) := rfl

theorem serves_run (calls : List Call) : p.Serves pending calls (p.run pending calls) := by
  induction calls generalizing pending with
  | nil => exact ⟨.nil, (List.append_nil pending).symm⟩
  | cons c calls ih =>
    obtain ⟨hanswers, hwarnings⟩ := ih (p.call pending c).2
    rw [run_cons]
    refine ⟨.cons (fun answer h => p.call_answer pending h) hanswers, ?_⟩
    generalize hserved : p.run (p.call pending c).2 calls = served at hwarnings
    calc ((p.call pending c).1 :: served.1).flatMap Reply.drained ++ served.2
        = (p.call pending c).1.drained ++ (served.1.flatMap Reply.drained ++ served.2) := by
          rw [List.flatMap_cons, List.append_assoc]
      _ = (p.call pending c).1.drained ++ (p.call pending c).2 ++ calls.flatMap (·.warnings p) := by
          rw [hwarnings, List.append_assoc]
      _ = pending ++ (c :: calls).flatMap (·.warnings p) := by
          rw [call_warnings, List.append_assoc, List.flatMap_cons]

theorem run_takeWarnings (calls : List Call) :
    (p.run pending (calls ++ [.takeWarnings])).2 = [] := by
  induction calls generalizing pending with
  | nil => rfl
  | cons c calls ih => exact ih (p.call pending c).2

/-! ### The order of attributes -/

def Call.attrs : Call → Attributes
  | .fence f => f.attrs
  | .placeholder _ attrs _ => attrs
  | .takeWarnings => []

def Call.withAttrs (attrs : Attributes) : Call → Call
  | .fence f => .fence { f with attrs := attrs }
  | .placeholder block _ index => .placeholder block attrs index
  | .takeWarnings => .takeWarnings

end Processor

def Warning.isAboutAttribute : Warning → Bool
  | mermaidAttribute _ _ | plantUmlAttribute _ _ => true
  | imageFormat _ _ _ | noEncoder _ => false

/-- The same warnings, but for the order of those about unknown attributes. -/
def AgreeUpToOrder (warnings warnings' : List Warning) : Prop :=
  ∃ front unknown unknown' back,
    warnings = front ++ unknown ++ back ∧ warnings' = front ++ unknown' ++ back ∧
      unknown.Perm unknown' ∧ ∀ w ∈ unknown, w.isAboutAttribute = true

theorem AgreeUpToOrder.refl (warnings : List Warning) : AgreeUpToOrder warnings warnings :=
  ⟨warnings, [], [], [], by simp, by simp, .nil, by simp⟩

namespace Processor

variable (p : Processor) {attrs attrs' : Attributes}

/-- A placeholder does not depend on the order of the attributes. -/
theorem placeholder_of_perm (block : DiagramBlock) (index : Nat) (hkeys : attrs.keys.Nodup)
    (hperm : attrs.Perm attrs') :
    (p.placeholder block attrs' index).1 = (p.placeholder block attrs index).1 ∧
      AgreeUpToOrder (p.placeholder block attrs index).2 (p.placeholder block attrs' index).2 := by
  rw [placeholder, placeholder]
  cases block.language with
  | mermaid =>
    refine ⟨rfl, [], _, _, [], (List.append_nil _).symm, (List.append_nil _).symm, hperm.map _, ?_⟩
    exact List.forall_mem_map.2 fun _ _ => rfl
  | plantUml =>
    have hformat : p.chooseFormat attrs' index = p.chooseFormat attrs index := by
      rw [chooseFormat, chooseFormat, Attributes.get?_of_perm hkeys hperm]
    dsimp only
    rw [plantUml, plantUml, hformat]
    have hunknown := (hperm.filter (·.1 ≠ "format")).map fun attr =>
      Warning.plantUmlAttribute index attr.1
    cases p.encoder with
    | some encoder =>
      refine ⟨rfl, _, _, _, [], (List.append_nil _).symm, (List.append_nil _).symm, hunknown, ?_⟩
      exact List.forall_mem_map.2 fun _ _ => rfl
    | none => exact ⟨rfl, _, _, _, _, rfl, rfl, hunknown, List.forall_mem_map.2 fun _ _ => rfl⟩

theorem withAttrs_of_perm (c : Call) (hkeys : c.attrs.keys.Nodup) (hperm : c.attrs.Perm attrs) :
    (c.withAttrs attrs).answer? p = c.answer? p ∧
      AgreeUpToOrder (c.warnings p) ((c.withAttrs attrs).warnings p) := by
  cases c with
  | fence f =>
    rw [Call.withAttrs, Call.answer?, Call.answer?, Call.warnings, Call.warnings, warned, warned,
      answer?, answer?]
    dsimp only
    cases Language.ofFence? f.language with
    | none => exact ⟨rfl, .refl []⟩
    | some language =>
      obtain ⟨hanswer, hwarnings⟩ := p.placeholder_of_perm
        ⟨language, f.source, Placeholder.idOf language p.pass f.index⟩ f.index hkeys hperm
      exact ⟨congrArg (fun shown : Placeholder => some (Reply.markup (some shown.html))) hanswer,
        hwarnings⟩
  | placeholder block _ index =>
    obtain ⟨hanswer, hwarnings⟩ := p.placeholder_of_perm block index hkeys hperm
    exact ⟨congrArg (some ∘ Reply.placeholder) hanswer, hwarnings⟩
  | takeWarnings => exact ⟨rfl, .refl []⟩

/-! ### Documents -/

/-- What becomes of code blocks does not depend on the warnings that are pending, and the warnings
about them are added to these. -/
theorem offerAll_handler (pending : List Warning) (index : Nat) (blocks : List CodeBlock) :
    offerAll (some p.handler) pending index blocks =
      ((offerAll (some p.handler) [] index blocks).1,
        pending ++ (fencesFrom index blocks).flatMap p.warned) := by
  induction blocks generalizing pending index with
  | nil => exact congrArg _ (List.append_nil pending).symm
  | cons block rest ih =>
    rw [offerAll_cons, offerAll_cons, fencesFrom_cons]
    cases hfence : block.fence? index with
    | none =>
      rw [offer_of_fence?_eq_none hfence, offer_of_fence?_eq_none hfence, ih]
      rfl
    | some fence =>
      rw [offer_of_fence?_eq_some hfence, offer_of_fence?_eq_some hfence, answer_handler,
        answer_handler, ih, ih (([] : List Warning) ++ _), List.append_assoc]
      rfl

theorem renderEvents_handler_pending (breaks extractTitle : Bool) (pending : List Warning)
    (events : List Event) :
    renderEvents breaks extractTitle (some p.handler) pending events =
      { renderEvents breaks extractTitle (some p.handler) [] events with
        handlerState := pending ++ (fences events).flatMap p.warned } := by
  obtain ⟨layout, title, toc, -, hrender⟩ :=
    exists_layout_renderEvents breaks extractTitle events
  rw [hrender, hrender, offerAll_handler, fences]

end Processor

theorem nodup_keys_of_mem_fences {events : List Event} {fence : Fence}
    (h : fence ∈ fences events) : fence.attrs.keys.Nodup := by
  obtain ⟨⟨block, index⟩, -, hfence⟩ := List.mem_filterMap.1 h
  rw [CodeBlock.fence?] at hfence
  split at hfence
  · cases hfence
  · rw [← Option.some.inj hfence]
    exact InfoString.nodup_keys_parse block.info

namespace Renderer

variable (o : RenderOptions) (p : Processor)

/-- Whatever is pending, a document is rendered as by a fresh renderer, and such a renderer is what
stays behind. -/
theorem render_eq (pending : List Warning) (markdown : String) :
    (⟨o, p, pending⟩ : Renderer).render markdown =
      ({ ((fresh o p).render markdown).1 with
          handlerState := pending ++ (fences (Markdown.events o.gfm markdown)).flatMap p.warned },
        fresh o p) := by
  rw [render, DiagramDoc.render, p.renderEvents_handler_pending]
  rfl

theorem renderAll_fresh (documents : List String) : (fresh o p).renderAll documents =
    (documents.map fun markdown => ((fresh o p).render markdown).1, fresh o p) := by
  induction documents with
  | nil => rfl
  | cons markdown rest ih =>
    have hfresh : ((fresh o p).render markdown).2 = fresh o p := rfl
    have hcons : (fresh o p).renderAll (markdown :: rest) =
        (((fresh o p).render markdown).1 :: (((fresh o p).render markdown).2.renderAll rest).1,
          (((fresh o p).render markdown).2.renderAll rest).2) := rfl
    rw [hcons, hfresh, ih, List.map_cons]

end Renderer

namespace Processor

/-- A processor in use answers as a fresh one. Of a history of calls, each question is answered as
if it were the first, what is handed over and what is pending at the end are the warnings of the
calls in their order, and nothing is pending behind a call that takes them. The order of attributes
shows only in the order of the warnings about them. A document is rendered as by a fresh renderer,
whatever is pending, and so are documents one after the other. -/
structure LeavesNoTrace (p : Processor) : Prop where
  serves : ∀ (pending : List Warning) (calls : List Call),
    p.Serves pending calls (p.run pending calls)
  drained : ∀ (pending : List Warning) (calls : List Call),
    (p.run pending (calls ++ [.takeWarnings])).2 = []
  reordered : ∀ (c : Call) (attrs : Attributes), c.attrs.keys.Nodup → c.attrs.Perm attrs →
    (c.withAttrs attrs).answer? p = c.answer? p ∧
      AgreeUpToOrder (c.warnings p) ((c.withAttrs attrs).warnings p)
  renders : ∀ (o : RenderOptions) (pending : List Warning) (markdown : String),
    (⟨o, p, pending⟩ : Renderer).render markdown =
      ({ ((Renderer.fresh o p).render markdown).1 with
          handlerState := pending ++ (fences (Markdown.events o.gfm markdown)).flatMap p.warned },
        Renderer.fresh o p)
  rendersAll : ∀ (o : RenderOptions) (documents : List String),
    (Renderer.fresh o p).renderAll documents =
      (documents.map fun markdown => ((Renderer.fresh o p).render markdown).1,
        Renderer.fresh o p)

/-- **Earlier calls leave no trace in a processor but warnings, and each of these is handed over
once.** The fences of a document name no attribute twice, so that the order of their attributes does
not matter. -/
theorem reuse_leaves_no_trace :
    (∀ p : Processor, p.LeavesNoTrace) ∧
      ∀ (events : List Event), ∀ fence ∈ fences events, fence.attrs.keys.Nodup := by
  refine ⟨fun p => ?_, fun events fence hmem => nodup_keys_of_mem_fences hmem⟩
  constructor
  case serves => exact p.serves_run
  case drained => exact p.run_takeWarnings
  case reordered => exact fun c attrs hkeys hperm => p.withAttrs_of_perm c hkeys hperm
  case renders => exact fun o => Renderer.render_eq o p
  case rendersAll => exact fun o => Renderer.renderAll_fresh o p

end Processor

/-- A diagram in a format that there is not, with two attributes that mean nothing. -/
def attributedDiagram : List Event := [
  .enter (.fencedCode "puml theme=dark format=gif size=9"), .text "a->b\n", .leave .codeBlock]

theorem Processor.reuse_leaves_no_trace_attributedDiagram :
    let fence : Fence :=
      ⟨"puml", [("theme", "dark"), ("format", "gif"), ("size", "9")], "a->b\n", 0⟩
    let reordered : Attributes := [("size", "9"), ("theme", "dark"), ("format", "gif")]
    fence ∈ fences attributedDiagram ∧ fence.attrs.keys.Nodup ∧ fence.attrs.Perm reordered ∧
      ((Call.fence fence).withAttrs reordered).answer? (standard 1) =
        (Call.fence fence).answer? (standard 1) ∧
      AgreeUpToOrder ((Call.fence fence).warnings (standard 1))
        (((Call.fence fence).withAttrs reordered).warnings (standard 1)) := by
  intro fence reordered
  obtain ⟨htrace, hnodup⟩ := reuse_leaves_no_trace
  have hmem : fence ∈ fences attributedDiagram := by decide +kernel
  have hkeys : fence.attrs.keys.Nodup := hnodup attributedDiagram fence hmem
  have hperm : fence.attrs.Perm reordered := by decide
  exact ⟨hmem, hkeys, hperm, (htrace (standard 1)).reordered (.fence fence) reordered hkeys hperm⟩

end DiagramDoc
