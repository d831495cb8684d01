import DiagramDoc.Document.Event
import DiagramDoc.Document.Fence
import DiagramDoc.Document.Outline
import DiagramDoc.Html.Escape

/-! # Writer of documents

The writer turns events into markup, one fragment at a time, and its output is the fragments in
order. Three things are kept back until their end is known: the content of a heading, the text of a
code block, and the description of an image. Text is escaped wherever it is written; only markup of
the document itself is copied.
-/

namespace DiagramDoc

open Html

inductive Fragment where
  | markup (html : String)
  | heading (heading : Heading)
  | code (language source : String)
  | claimed (html : String)
  deriving DecidableEq, Repr

namespace Fragment

/-- The fragment as it stands in the output. The id of a heading needs no escaping, since a slug
has none of the characters that are escaped. -/
def html : Fragment → String
  | markup html => html
  | heading h =>
    "<h" ++ toString h.level ++ " id=\"" ++ h.id ++ "\">" ++ h.html ++ "</h" ++ toString h.level ++
      ">"
  | code language source =>
    "<pre><code class=\"hljs language-" ++ escape language ++ "\">" ++ escape source ++
      "</code></pre>"
  | claimed html => html

end Fragment

def concatHtml (fragments : List Fragment) : String :=
  fragments.foldl (fun out f => out ++ f.html) ""

inductive Capture where
  | nothing
  | code (info source : String)
  | image (url title alt : String)
  deriving DecidableEq, Repr

structure TableCursor where
  alignments : List Alignment
  column : Nat
  inHead : Bool
  deriving DecidableEq, Repr

namespace TableCursor

def empty : TableCursor := ⟨[], 0, false⟩

def cellTag (t : TableCursor) : String := if t.inHead then "th" else "td"

def cellStyle (t : TableCursor) : String :=
  match t.alignments[t.column]? with
  | some .left => " style=\"text-align:left\""
  | some .center => " style=\"text-align:center\""
  | some .right => " style=\"text-align:right\""
  | some .unset => ""
  | none => ""

end TableCursor

/-- What the writer is told from outside: whether a line break in a paragraph is written as one,
and who is asked about fences. -/
structure WriterSettings (σ : Type) where
  breaks : Bool
  handler : Option (FenceHandler σ)

structure Writer (σ : Type) where
  capture : Capture
  table : TableCursor
  outline : Outline
  codeBlocks : Nat
  handlerState : σ

namespace Writer

variable {σ : Type}

def start (extractTitle : Bool) (s : σ) : Writer σ :=
  ⟨.nothing, .empty, .empty extractTitle, 0, s⟩

def emit (w : Writer σ) (html : String) : List Fragment × Writer σ := ([.markup html], w)

/-- Puts inline content where it belongs: its plain text to a code block or image description that
is being collected, both forms to an open heading, and its markup to the output otherwise. -/
def inline (w : Writer σ) (text html : String) : List Fragment × Writer σ :=
  match w.capture with
  | .code info source => ([], { w with capture := .code info (source ++ text) })
  | .image url title alt => ([], { w with capture := .image url title (alt ++ text) })
  | .nothing =>
    if w.outline.isOpen then ([], { w with outline := w.outline.push text html })
    else w.emit html

def linkTag (url title : String) : String :=
  "<a" ++ attr "href" url ++ (if title = "" then "" else attr "title" title) ++ ">"

def imageTag (url title alt : String) : String :=
  "<img" ++ attr "src" url ++ (if title = "" then "" else attr "title" title) ++ attr "alt" alt ++
    " loading=\"lazy\">"

def listTag : Option Nat → String
  | none => "<ul>"
  | some 1 => "<ol>"
  | some start => "<ol start=\"" ++ toString start ++ "\">"

def enter (w : Writer σ) : Tag → List Fragment × Writer σ
  | .paragraph => w.emit "<p>"
  | .heading level => ([], { w with outline := w.outline.openHeading level })
  | .blockQuote => w.emit "<blockquote>"
  | .fencedCode info => ([], { w with capture := .code info "" })
  | .indentedCode => ([], { w with capture := .code "" "" })
  | .list start => w.emit (listTag start)
  | .item => w.emit "<li>"
  | .table alignments => { w with table := ⟨alignments, 0, false⟩ }.emit "<table>"
  | .tableHead =>
    { w with table := { w.table with inHead := true, column := 0 } }.emit "<thead><tr>"
  | .tableRow => { w with table := { w.table with column := 0 } }.emit "<tr>"
  | .tableCell => w.emit ("<" ++ w.table.cellTag ++ w.table.cellStyle ++ ">")
  | .emphasis => w.inline "" "<em>"
  | .strong => w.inline "" "<strong>"
  | .strikethrough => w.inline "" "<s>"
  | .link url title => w.inline "" (linkTag url title)
  | .image url title => ([], { w with capture := .image url title "" })
  | .htmlBlock | .footnote | .definitionList | .definitionTitle | .definition | .superscript
  | .subscript | .metadata => ([], w)

def plainLanguage : String := "plaintext"

/-- Finishes a code block. One with a language is offered to the handler first. -/
def finishCode (s : WriterSettings σ) (w : Writer σ) (info source : String) :
    List Fragment × Writer σ :=
  let parsed := InfoString.parse info
  let w' := { w with codeBlocks := w.codeBlocks + 1 }
  if parsed.language = "" then ([.code plainLanguage source], w')
  else match s.handler with
    | none => ([.code parsed.language source], w')
    | some handler =>
      match handler.answer w.handlerState ⟨parsed.language, parsed.attrs, source, w.codeBlocks⟩ with
      | (some html, state) => ([.claimed html], { w' with handlerState := state })
      | (none, state) => ([.code parsed.language source], { w' with handlerState := state })

/-- Leaves an element. The end of a heading, code block or image that was never entered writes
nothing. -/
def leave (s : WriterSettings σ) (w : Writer σ) : TagEnd → List Fragment × Writer σ
  | .paragraph => w.emit "</p>"
  | .heading =>
    match w.outline.close with
    | (some heading, outline) => ([.heading heading], { w with outline := outline })
    | (none, outline) => ([], { w with outline := outline })
  | .blockQuote => w.emit "</blockquote>"
  | .codeBlock =>
    match w.capture with
    | .code info source => finishCode s { w with capture := .nothing } info source
    | _ => ([], { w with capture := .nothing })
  | .list true => w.emit "</ol>"
  | .list false => w.emit "</ul>"
  | .item => w.emit "</li>"
  | .table => w.emit "</tbody></table>"
  | .tableHead => { w with table := { w.table with inHead := false } }.emit "</tr></thead><tbody>"
  | .tableRow => w.emit "</tr>"
  | .tableCell =>
    { w with table := { w.table with column := w.table.column + 1 } }.emit
      ("</" ++ w.table.cellTag ++ ">")
  | .emphasis => w.inline "" "</em>"
  | .strong => w.inline "" "</strong>"
  | .strikethrough => w.inline "" "</s>"
  | .link => w.inline "" "</a>"
  | .image =>
    match w.capture with
    | .image url title alt => { w with capture := .nothing }.inline alt (imageTag url title alt)
    | _ => ([], { w with capture := .nothing })
  | .htmlBlock | .footnote | .definitionList | .definitionTitle | .definition | .superscript
  | .subscript | .metadata => ([], w)

def step (s : WriterSettings σ) (w : Writer σ) : Event → List Fragment × Writer σ
  | .enter tag => w.enter tag
  | .leave tag => leave s w tag
  | .text text => w.inline text (escape text)
  | .code text => w.inline text ("<code>" ++ escape text ++ "</code>")
  | .html text => w.inline "" text
  | .inlineHtml text => w.inline "" text
  | .softBreak =>
    w.inline " " (if w.outline.isOpen then " " else if s.breaks then "<br>" else "\n")
  | .hardBreak => w.inline " " "<br>"
  | .rule => w.emit "<hr>"
  | .taskMarker true => w.emit "<input type=\"checkbox\" checked disabled> "
  | .taskMarker false => w.emit "<input type=\"checkbox\" disabled> "
  | .footnoteReference _ | .inlineMath _ | .displayMath _ => ([], w)

def run (s : WriterSettings σ) (w : Writer σ) : List Event → List Fragment × Writer σ
  | [] => ([], w)
  | event :: rest =>
    let (fragments, w) := step s w event
    let (more, w) := run s w rest
    (fragments ++ more, w)

end Writer

end DiagramDoc
