import DiagramDoc.Diagram.Processor
import DiagramDoc.Document.Writer
import DiagramDoc.Markdown.Document

/-! # Rendering

A Markdown document is rendered by writing its events. What comes out is the markup, the title if
it was asked for, the table of contents, and the state of the fence handler. A series of documents
can be rendered with one handler, whose warnings are taken after each of them.
-/

namespace DiagramDoc

structure RenderOptions where
  gfm : Bool
  breaks : Bool
  extractTitle : Bool
  deriving DecidableEq, Repr

structure Rendering (σ : Type) where
  html : String
  title : Option String
  toc : List TocEntry
  handlerState : σ

def renderEvents {σ : Type} (breaks extractTitle : Bool) (handler : Option (FenceHandler σ))
    (s : σ) (events : List Event) : Rendering σ :=
  let (fragments, w) := Writer.run ⟨breaks, handler⟩ (.start extractTitle s) events
  ⟨concatHtml fragments, w.outline.title, w.outline.toc, w.handlerState⟩

def render {σ : Type} (o : RenderOptions) (handler : Option (FenceHandler σ)) (s : σ)
    (markdown : String) : Rendering σ :=
  renderEvents o.breaks o.extractTitle handler s (Markdown.events o.gfm markdown)

/-- Renders a document with a processor for its diagrams; the handler's state at the end is the
list of warnings. -/
def renderDiagrams (o : RenderOptions) (p : Processor) (markdown : String) :
    Rendering (List Warning) :=
  render o (some p.handler) [] markdown

/-- A renderer for one document after another. From one to the next it keeps what its processor
keeps: the warnings that nobody has taken. -/
structure Renderer where
  options : RenderOptions
  processor : Processor
  pending : List Warning
  deriving DecidableEq, Repr

namespace Renderer

def fresh (o : RenderOptions) (p : Processor) : Renderer := ⟨o, p, []⟩

/-- Renders a document and takes the warnings from the processor. -/
def render (r : Renderer) (markdown : String) : Rendering (List Warning) × Renderer :=
  let rendering := DiagramDoc.render r.options (some r.processor.handler) r.pending markdown
  let (warnings, pending) := Processor.takeWarnings rendering.handlerState
  ({ rendering with handlerState := warnings }, { r with pending := pending })

def renderAll (r : Renderer) : List String → List (Rendering (List Warning)) × Renderer
  | [] => ([], r)
  | markdown :: rest =>
    let (rendering, r) := r.render markdown
    let (renderings, r) := r.renderAll rest
    (rendering :: renderings, r)

end Renderer

end DiagramDoc
