import DiagramDoc.Diagram.Placeholder
import DiagramDoc.Diagram.Repair
import DiagramDoc.Document.Fence
import DiagramDoc.PlantUml.Encoding

/-! # Diagrams in a document

A processor claims the fences of the diagram languages and puts placeholders in their place. Its
answer to a fence depends on the fence and on its own settings, never on earlier fences; what it
keeps from fence to fence is the list of warnings.
-/

namespace DiagramDoc

open PlantUml

inductive Warning where
  | mermaidAttribute (index : Nat) (key : String)
  | plantUmlAttribute (index : Nat) (key : String)
  | imageFormat (index : Nat) (value : String) (used : ImageFormat)
  | noEncoder (index : Nat)
  deriving DecidableEq, Repr

def Warning.message : Warning → String
  | mermaidAttribute index key =>
    "diagram " ++ toString index ++ ": unknown attribute '" ++ key ++
      "' ignored (mermaid takes no attributes)"
  | plantUmlAttribute index key =>
    "diagram " ++ toString index ++ ": unknown attribute '" ++ key ++ "' ignored (valid: format)"
  | imageFormat index value used =>
    "diagram " ++ toString index ++ ": unknown format value '" ++ value ++ "', using default '" ++
      used.name ++ "' (valid: svg, png)"
  | noEncoder index =>
    "diagram " ++ toString index ++ ": PlantUML encoder unavailable, diagram not rendered"

structure DiagramBlock where
  language : Language
  source : String
  id : String
  deriving DecidableEq, Repr

structure Processor where
  repair : RepairOptions
  server : String
  format : ImageFormat
  /-- How sources are written into URLs; without an encoder no diagram of PlantUML is drawn. -/
  encoder : Option Encoder
  pass : Nat
  deriving DecidableEq, Repr

namespace Processor

def standard (pass : Nat) : Processor :=
  ⟨.standard, publicServer, .svg, some .deflate, pass⟩

def mermaid (p : Processor) (block : DiagramBlock) (attrs : Attributes) (index : Nat) :
    Placeholder × List Warning :=
  (.mermaid block.id (DiagramDoc.repair p.repair block.source),
    attrs.map fun (key, _) => .mermaidAttribute index key)

def chooseFormat (p : Processor) (attrs : Attributes) (index : Nat) :
    ImageFormat × List Warning :=
  match attrs.get? "format" with
  | none => (p.format, [])
  | some value =>
    match ImageFormat.ofName? value with
    | some format => (format, [])
    | none => (p.format, [.imageFormat index value p.format])

/-- A diagram of PlantUML is a picture whenever there is an encoder, since none of the encoders can
fail; the message in its place is for a processor without one. -/
def plantUml (p : Processor) (block : DiagramBlock) (attrs : Attributes) (index : Nat) :
    Placeholder × List Warning :=
  let (format, formatWarnings) := p.chooseFormat attrs index
  let unknown := (attrs.filter (·.1 ≠ "format")).map fun (key, _) =>
    Warning.plantUmlAttribute index key
  match p.encoder with
  | some encoder =>
    (.plantUml block.id block.source
      (imageUrl p.server format (encodeSource encoder block.source)), formatWarnings ++ unknown)
  | none => (.unavailable block.id block.source, formatWarnings ++ unknown ++ [.noEncoder index])

def placeholder (p : Processor) (block : DiagramBlock) (attrs : Attributes) (index : Nat) :
    Placeholder × List Warning :=
  match block.language with
  | .mermaid => p.mermaid block attrs index
  | .plantUml => p.plantUml block attrs index

def answer? (p : Processor) (fence : Fence) : Option (Placeholder × List Warning) :=
  (Language.ofFence? fence.language).map fun language =>
    p.placeholder ⟨language, fence.source, Placeholder.idOf language p.pass fence.index⟩
      fence.attrs fence.index

/-- The processor as a handler of fences; its state is the list of warnings so far. -/
def handler (p : Processor) : FenceHandler (List Warning) where
  answer pending fence :=
    match p.answer? fence with
    | some (placeholder, warnings) => (some placeholder.html, pending ++ warnings)
    | none => (none, pending)

/-- Hands over the warnings that are pending; none of them stays behind. -/
def takeWarnings (pending : List Warning) : List Warning × List Warning := (pending, [])

/-- What a processor in use is called for. -/
inductive Call where
  | fence (fence : Fence)
  | placeholder (block : DiagramBlock) (attrs : Attributes) (index : Nat)
  | takeWarnings
  deriving DecidableEq, Repr

inductive Reply where
  | markup (html : Option String)
  | placeholder (placeholder : Placeholder)
  | warnings (warnings : List Warning)
  deriving DecidableEq, Repr

/-- The reply to a call, and the warnings that are pending behind it. -/
def call (p : Processor) (pending : List Warning) : Call → Reply × List Warning
  | .fence fence =>
    let (html, pending) := p.handler.answer pending fence
    (.markup html, pending)
  | .placeholder block attrs index =>
    let (placeholder, warnings) := p.placeholder block attrs index
    (.placeholder placeholder, pending ++ warnings)
  | .takeWarnings =>
    let (warnings, pending) := takeWarnings pending
    (.warnings warnings, pending)

def run (p : Processor) (pending : List Warning) : List Call → List Reply × List Warning
  | [] => ([], pending)
  | c :: rest =>
    let (reply, pending) := p.call pending c
    let (replies, pending) := p.run pending rest
    (reply :: replies, pending)

end Processor

end DiagramDoc
