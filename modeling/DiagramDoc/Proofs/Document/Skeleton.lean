import DiagramDoc.Proofs.Document.Slugs
import DiagramDoc.Proofs.Html.Tags
import DiagramDoc.Rendering

/-! # The tags of a document

A writer that is told the events and writes only tags: no text, no attribute value, and no answer of
a fence handler. It keeps as much of the state as the tags depend on. The writer of documents runs
along with it: without a handler and without raw markup in the document, what it writes is read as
exactly these tags, whatever the texts are.
-/

namespace DiagramDoc

open Html Text

/-- What kind of text is kept back, and whether the image will have a title. -/
inductive Held where
  | nothing
  | code
  | image (titled : Bool)
  deriving DecidableEq, Repr

/-- The state of a writer of tags. An open heading has its level and the tags in it. -/
structure TagWriter where
  held : Held
  table : TableCursor
  heading : Option (Nat × List (List Char))
  deriving DecidableEq, Repr

namespace TagWriter

def start : TagWriter := ⟨.nothing, .empty, none⟩

/-- Puts inline tags where they belong: nowhere while a text is kept back, and into the open heading
if there is one. -/
def inline (w : TagWriter) (tags : List (List Char)) : List (List Char) × TagWriter :=
  match w.held, w.heading with
  | .nothing, some (level, content) => ([], { w with heading := some (level, content ++ tags) })
  | .nothing, none => (tags, w)
  | _, _ => ([], w)

def titleNames (titled : Bool) : List Char := if titled then " title=\"\"".toList else []

def linkTag (titled : Bool) : List Char := "a href=\"\"".toList ++ titleNames titled

def imageTag (titled : Bool) : List Char :=
  "img src=\"\"".toList ++ titleNames titled ++ " alt=\"\" loading=\"\"".toList

def listTag : Option Nat → List Char
  | none => "ul".toList
  | some 1 => "ol".toList
  | some _ => "ol start=\"\"".toList

def cellTag (t : TableCursor) : List Char :=
  match t.alignments[t.column]? with
  | some .unset | none => t.cellTag.toList
  | some _ => t.cellTag.toList ++ " style=\"\"".toList

def headingName (level : Nat) : List Char := "h".toList ++ (toString level).toList

def headingTags (level : Nat) (content : List (List Char)) : List (List Char) :=
  [headingName level ++ " id=\"\"".toList] ++ content ++ ["/".toList ++ headingName level]

def enter (w : TagWriter) : Tag → List (List Char) × TagWriter
  | .paragraph => (["p".toList], w)
  | .heading level => ([], { w with heading := some (level, []) })
  | .blockQuote => (["blockquote".toList], w)
  | .fencedCode _ | .indentedCode => ([], { w with held := .code })
  | .list first => ([listTag first], w)
  | .item => (["li".toList], w)
  | .table alignments => (["table".toList], { w with table := ⟨alignments, 0, false⟩ })
  | .tableHead =>
    (["thead".toList, "tr".toList],
      { w with table := { w.table with inHead := true, column := 0 } })
  | .tableRow => (["tr".toList], { w with table := { w.table with column := 0 } })
  | .tableCell => ([cellTag w.table], w)
  | .emphasis => w.inline ["em".toList]
  | .strong => w.inline ["strong".toList]
  | .strikethrough => w.inline ["s".toList]
  | .link _ title => w.inline [linkTag (title ≠ "")]
  | .image _ title => ([], { w with held := .image (title ≠ "") })
  | .htmlBlock | .footnote | .definitionList | .definitionTitle | .definition | .superscript
  | .subscript | .metadata => ([], w)

def codeTags : List (List Char) :=
  ["pre".toList, "code class=\"\"".toList, "/code".toList, "/pre".toList]

def leave (w : TagWriter) : TagEnd → List (List Char) × TagWriter
  | .paragraph => (["/p".toList], w)
  | .heading =>
    match w.heading with
    | some (level, content) => (headingTags level content, { w with heading := none })
    | none => ([], w)
  | .blockQuote => (["/blockquote".toList], w)
  | .codeBlock =>
    match w.held with
    | .code => (codeTags, { w with held := .nothing })
    | _ => ([], { w with held := .nothing })
  | .list true => (["/ol".toList], w)
  | .list false => (["/ul".toList], w)
  | .item => (["/li".toList], w)
  | .table => (["/tbody".toList, "/table".toList], w)
  | .tableHead =>
    (["/tr".toList, "/thead".toList, "tbody".toList],
      { w with table := { w.table with inHead := false } })
  | .tableRow => (["/tr".toList], w)
  | .tableCell =>
    (["/".toList ++ w.table.cellTag.toList],
      { w with table := { w.table with column := w.table.column + 1 } })
  | .emphasis => w.inline ["/em".toList]
  | .strong => w.inline ["/strong".toList]
  | .strikethrough => w.inline ["/s".toList]
  | .link => w.inline ["/a".toList]
  | .image =>
    match w.held with
    | .image titled => { w with held := .nothing }.inline [imageTag titled]
    | _ => ([], { w with held := .nothing })
  | .htmlBlock | .footnote | .definitionList | .definitionTitle | .definition | .superscript
  | .subscript | .metadata => ([], w)

def checkboxTag (checked : Bool) : List Char :=
  "input type=\"\"".toList ++ (if checked then " checked".toList else []) ++ " disabled".toList

def step (breaks : Bool) (w : TagWriter) : Event → List (List Char) × TagWriter
  | .enter tag => w.enter tag
  | .leave tag => w.leave tag
  | .code _ => w.inline ["code".toList, "/code".toList]
  | .softBreak => w.inline (if !w.heading.isSome && breaks then ["br".toList] else [])
  | .hardBreak => w.inline ["br".toList]
  | .rule => (["hr".toList], w)
  | .taskMarker checked => ([checkboxTag checked], w)
  | .text _ | .html _ | .inlineHtml _ | .footnoteReference _ | .inlineMath _ | .displayMath _ =>
    ([], w)

def run (breaks : Bool) (w : TagWriter) : List Event → List (List Char) × TagWriter
  | [] => ([], w)
  | event :: rest =>
    let (tags, w) := w.step breaks event
    let (more, w) := w.run breaks rest
    (tags ++ more, w)

theorem run_nil (breaks : Bool) (w : TagWriter) : w.run breaks [] = ([], w) := rfl

theorem run_cons (breaks : Bool) (w : TagWriter) (event : Event) (events : List Event) :
    w.run breaks (event :: events) =
      ((w.step breaks event).1 ++ ((w.step breaks event).2.run breaks events).1,
        ((w.step breaks event).2.run breaks events).2) := rfl

theorem inline_nil (w : TagWriter) : w.inline [] = ([], w) := by
  obtain ⟨held, table, heading⟩ := w
  cases held <;> cases heading <;> simp [inline]

end TagWriter

/-- Markup that is copied from the document. -/
def Event.isRaw : Event → Bool
  | .html _ | .inlineHtml _ => true
  | _ => false

def Capture.held : Capture → Held
  | .nothing => .nothing
  | .code _ _ => .code
  | .image _ title _ => .image (title ≠ "")

variable {σ : Type} {w : Writer σ} {t : TagWriter}

/-- The tags of a writer of documents are those of a writer of tags: both keep the same kind of text
back, and the markup of the open heading has the tags that are kept for it. -/
structure Writer.Shows (w : Writer σ) (t : TagWriter) : Prop where
  held : w.capture.held = t.held
  table : w.table = t.table
  heading : Option.Rel (fun h kept => h.level = kept.1 ∧ Reads h.html.toList kept.2)
    w.outline.current t.heading

/-- What is written is read as the tags, and the writers still show the same. -/
def Writes (written : List Fragment × Writer σ) (tags : List (List Char) × TagWriter) : Prop :=
  Reads (concatHtml written.1).toList tags.1 ∧ written.2.Shows tags.2

/-! ### Fragments -/

theorem toList_concatHtml (fragments : List Fragment) :
    (concatHtml fragments).toList = fragments.flatMap fun f => f.html.toList := by
  have hfold (out : String) : (fragments.foldl (fun out f => out ++ f.html) out).toList =
      out.toList ++ fragments.flatMap fun f => f.html.toList := by
    induction fragments generalizing out with
    | nil => rw [List.foldl_nil, List.flatMap_nil, List.append_nil]
    | cons f fragments ih =>
      rw [List.foldl_cons, ih, String.toList_append, List.flatMap_cons, List.append_assoc]
  exact hfold ""

theorem concatHtml_append (fragments more : List Fragment) :
    concatHtml (fragments ++ more) = concatHtml fragments ++ concatHtml more := by
  rw [← String.toList_inj, String.toList_append, toList_concatHtml, toList_concatHtml,
    toList_concatHtml, List.flatMap_append]

theorem Writer.Shows.silent (h : w.Shows t) : Writes ([], w) ([], t) := ⟨reads_nil, h⟩

theorem Writer.Shows.fragment {f : Fragment} {tags : List (List Char)} (h : w.Shows t)
    (hf : Reads f.html.toList tags) : Writes ([f], w) (tags, t) := by
  refine ⟨?_, h⟩
  rw [toList_concatHtml, List.flatMap_singleton]
  exact hf

theorem Writer.Shows.emit {html : String} {tags : List (List Char)} (h : w.Shows t)
    (hhtml : Reads html.toList tags) : Writes (w.emit html) (tags, t) :=
  h.fragment (f := .markup html) hhtml

theorem Writer.Shows.inline {html : String} {tags : List (List Char)} (h : w.Shows t)
    (text : String) (hhtml : Reads html.toList tags) :
    Writes (w.inline text html) (t.inline tags) := by
  obtain ⟨capture, table, outline, codeBlocks, handlerState⟩ := w
  obtain ⟨extractTitle, current, title, toc, slugs⟩ := outline
  obtain ⟨held, table', heading⟩ := t
  obtain ⟨rfl, rfl, hheading⟩ := h
  cases capture with
  | nothing =>
    cases hheading with
    | none => exact Writer.Shows.emit ⟨rfl, rfl, .none⟩ hhtml
    | some hopen =>
      refine Writer.Shows.silent ⟨rfl, rfl, .some ⟨hopen.1, ?_⟩⟩
      rw [String.toList_append]
      exact hopen.2.append hhtml
  | code info source => exact Writer.Shows.silent ⟨rfl, rfl, hheading⟩
  | image url title alt => exact Writer.Shows.silent ⟨rfl, rfl, hheading⟩

/-! ### Tags with attributes -/

theorem readsInside_title (title : String) :
    ReadsInside (if title = "" then "" else attr "title" title).toList
      (TagWriter.titleNames (title ≠ "")) := by
  by_cases htitle : title = ""
  · rw [if_pos htitle, TagWriter.titleNames, if_neg (by simp [htitle])]
    exact readsInside_unmarked (by decide)
  · rw [if_neg htitle, TagWriter.titleNames, if_pos (by simp [htitle])]
    exact readsInside_attr "title" title (by decide)

theorem reads_linkTag (url title : String) :
    Reads (Writer.linkTag url title).toList [TagWriter.linkTag (title ≠ "")] := by
  have hname : ReadsInside "a".toList "a".toList := readsInside_unmarked (by decide)
  have hurl := readsInside_attr "href" url (by decide)
  have hall := ((hname.append hurl).append (readsInside_title title)).tag
  simp only [Writer.linkTag, String.toList_append]
  exact hall

theorem reads_imageTag (url title alt : String) :
    Reads (Writer.imageTag url title alt).toList [TagWriter.imageTag (title ≠ "")] := by
  have hname : ReadsInside "img".toList "img".toList := readsInside_unmarked (by decide)
  have hsrc := readsInside_attr "src" url (by decide)
  have halt := readsInside_attr "alt" alt (by decide)
  have hlazy := readsInside_attr "loading" "lazy" (by decide)
  have hall := (((hname.append hsrc).append (readsInside_title title)).append
    (halt.append hlazy)).tag
  have htext : (Writer.imageTag url title alt).toList = '<' :: ("img".toList ++
      (attr "src" url).toList ++ (if title = "" then "" else attr "title" title).toList ++
        ((attr "alt" alt).toList ++ (attr "loading" "lazy").toList)) ++ ['>'] := by
    have hopen : "<img".toList = '<' :: "img".toList := rfl
    have hend : " loading=\"lazy\">".toList = (attr "loading" "lazy").toList ++ ['>'] := by
      decide +kernel
    simp only [Writer.imageTag, String.toList_append, hopen, hend, List.append_assoc,
      List.cons_append]
  rw [htext]
  exact hall

theorem reads_listTag (first : Option Nat) :
    Reads (Writer.listTag first).toList [TagWriter.listTag first] := by
  match first with
  | none => exact fun _ => rfl
  | some 0 => exact fun _ => rfl
  | some 1 => exact fun _ => rfl
  | some (n + 2) =>
    have hname : ReadsInside "ol".toList "ol".toList := readsInside_unmarked (by decide)
    have hall := (hname.append (readsInside_attr "start" (toString (n + 2)) (by decide))).tag
    have htext : (Writer.listTag (some (n + 2))).toList =
        '<' :: ("ol".toList ++ (attr "start" (toString (n + 2))).toList) ++ ['>'] := by
      have hopen : "<ol start=\"".toList =
          '<' :: ("ol".toList ++ (" ".toList ++ ("start".toList ++ "=\"".toList))) := rfl
      have hclose : "\">".toList = "\"".toList ++ ['>'] := rfl
      simp only [Writer.listTag, attr, (isPlain_toString (n + 2)).escape_eq, String.toList_append,
        hopen, hclose, List.append_assoc, List.cons_append]
    rw [htext]
    exact hall

theorem reads_cellTag (t : TableCursor) :
    Reads ("<" ++ t.cellTag ++ t.cellStyle ++ ">").toList [TagWriter.cellTag t] := by
  rw [TableCursor.cellStyle, TagWriter.cellTag, TableCursor.cellTag]
  cases t.inHead <;> rcases t.alignments[t.column]? with _ | _ | _ | _ | _ <;> exact fun _ => rfl

theorem reads_code (language source : String) :
    Reads (Fragment.code language source).html.toList TagWriter.codeTags := by
  have hpre : Reads "<pre>".toList ["pre".toList] := fun _ => rfl
  have hname : ReadsInside "code".toList "code".toList := readsInside_unmarked (by decide)
  have hclass := readsInside_attr "class" ("hljs language-" ++ language) (by decide)
  have hend : Reads "</code></pre>".toList ["/code".toList, "/pre".toList] :=
    tags?_eq_some_iff.1 (by decide)
  have hall := ((hpre.append (hname.append hclass).tag).append (reads_escape source)).append hend
  have htext : (Fragment.code language source).html.toList = "<pre>".toList ++
      ('<' :: ("code".toList ++ (attr "class" ("hljs language-" ++ language)).toList) ++ ['>']) ++
        (escape source).toList ++ "</code></pre>".toList := by
    have hhtml : (Fragment.code language source).html = "<pre><code class=\"hljs language-" ++
        escape language ++ "\">" ++ escape source ++ "</code></pre>" := rfl
    have hplain : escape "hljs language-" = "hljs language-" := rfl
    have hopen : "<pre><code class=\"hljs language-".toList = "<pre>".toList ++ ('<' ::
        ("code".toList ++ (" ".toList ++ ("class".toList ++
          ("=\"".toList ++ "hljs language-".toList))))) := rfl
    have hclose : "\">".toList = "\"".toList ++ ['>'] := rfl
    simp only [hhtml, attr, escape_append, hplain, String.toList_append, hopen, hclose,
      List.append_assoc, List.cons_append]
  rw [htext]
  exact hall

theorem isUnmarked_toString (n : Nat) : IsUnmarked (toString n).toList := by
  rw [← (isPlain_toString n).escape_eq]
  exact isUnmarked_escape _

theorem reads_heading (heading : Heading) {content : List (List Char)}
    (hid : escape heading.id = heading.id) (hhtml : Reads heading.html.toList content) :
    Reads (Fragment.heading heading).html.toList (TagWriter.headingTags heading.level content) := by
  have hname : ReadsInside ("h".toList ++ (toString heading.level).toList)
      (TagWriter.headingName heading.level) :=
    (readsInside_unmarked (by decide)).append (readsInside_unmarked (isUnmarked_toString _))
  have hattr := readsInside_attr "id" heading.id (by decide)
  have hslash : ReadsInside "/".toList "/".toList := readsInside_unmarked (by decide)
  have hall := ((hname.append hattr).tag.append hhtml).append (hslash.append hname).tag
  have htext : (Fragment.heading heading).html.toList = '<' :: ("h".toList ++
      (toString heading.level).toList ++ (attr "id" heading.id).toList) ++ ['>'] ++
        heading.html.toList ++ ('<' :: ("/".toList ++ ("h".toList ++
          (toString heading.level).toList)) ++ ['>']) := by
    have hopen : "<h".toList = '<' :: "h".toList := rfl
    have hclose : ">".toList = ['>'] := rfl
    have hend : "</h".toList = '<' :: ("/".toList ++ "h".toList) := rfl
    simp only [Fragment.html_heading heading hid, String.toList_append, hopen, hclose, hend,
      List.append_assoc, List.cons_append]
  rw [htext]
  exact hall

/-! ### One event -/

theorem Writer.Shows.enter (h : w.Shows t) (tag : Tag) : Writes (w.enter tag) (t.enter tag) := by
  cases tag with
  | paragraph => exact h.emit fun _ => rfl
  | heading level => exact Writer.Shows.silent ⟨h.held, h.table, .some ⟨rfl, reads_nil⟩⟩
  | blockQuote => exact h.emit fun _ => rfl
  | fencedCode info => exact Writer.Shows.silent ⟨rfl, h.table, h.heading⟩
  | indentedCode => exact Writer.Shows.silent ⟨rfl, h.table, h.heading⟩
  | list first => exact h.emit (reads_listTag first)
  | item => exact h.emit fun _ => rfl
  | table alignments => exact Writer.Shows.emit ⟨h.held, rfl, h.heading⟩ fun _ => rfl
  | tableHead =>
    have hboth : Reads "<thead><tr>".toList ["thead".toList, "tr".toList] :=
      tags?_eq_some_iff.1 (by decide)
    refine Writer.Shows.emit ⟨h.held, ?_, h.heading⟩ hboth
    rw [h.table]
  | tableRow =>
    refine Writer.Shows.emit ⟨h.held, ?_, h.heading⟩ fun _ => rfl
    rw [h.table]
  | tableCell =>
    rw [TagWriter.enter, ← h.table]
    exact h.emit (reads_cellTag w.table)
  | emphasis => exact h.inline "" fun _ => rfl
  | strong => exact h.inline "" fun _ => rfl
  | strikethrough => exact h.inline "" fun _ => rfl
  | link url title => exact h.inline "" (reads_linkTag url title)
  | image url title => exact Writer.Shows.silent ⟨rfl, h.table, h.heading⟩
  | htmlBlock | footnote | definitionList | definitionTitle | definition | superscript | subscript
  | metadata => exact h.silent

/-- A code block has the same tags whatever its language is. -/
theorem Writer.Shows.finishCode {settings : WriterSettings σ} (h : w.Shows t)
    (hhandler : settings.handler = none) (info source : String) :
    Writes (finishCode settings w info source) (TagWriter.codeTags, t) := by
  have hcounted : { w with codeBlocks := w.codeBlocks + 1 }.Shows t := ⟨h.held, h.table, h.heading⟩
  rw [Writer.finishCode, hhandler]
  dsimp only
  split
  · exact hcounted.fragment (reads_code _ _)
  · exact hcounted.fragment (reads_code _ _)

theorem Outline.close_eq {o : Outline} {h : OpenHeading} (hopen : o.current = some h) :
    ∃ id closed, o.close = (some ⟨h.level, id, trimmed h.html⟩, closed) ∧ escape id = id ∧
      closed.current = none := by
  have hid := o.escape_anchor_slug (trimmed h.text)
  rw [close, hopen]
  dsimp only
  split
  · exact ⟨_, _, rfl, hid, rfl⟩
  · exact ⟨_, _, rfl, hid, rfl⟩

theorem Writer.leave_heading (settings : WriterSettings σ) (w : Writer σ) :
    leave settings w .heading =
      (w.outline.close.1.toList.map .heading, { w with outline := w.outline.close.2 }) := by
  unfold leave
  dsimp only
  split <;> next hclose => rw [hclose]; rfl

theorem Writer.Shows.leaveHeading (h : w.Shows t) (settings : WriterSettings σ) :
    Writes (leave settings w .heading) (t.leave .heading) := by
  rw [Writer.leave_heading, TagWriter.leave]
  generalize hcurrent : w.outline.current = current, hkept : t.heading = kept,
    h.heading = hheading
  cases hheading with
  | none =>
    have hclose : w.outline.close = (none, w.outline) := by rw [Outline.close, hcurrent]
    rw [hclose]
    exact h.silent
  | @some opened kept hrel =>
    obtain ⟨level, content⟩ := kept
    obtain ⟨rfl, hhtml⟩ := hrel
    obtain ⟨id, closed, hclose, hid, hnone⟩ := Outline.close_eq hcurrent
    have hshows : Writer.Shows { w with outline := closed } { t with heading := none } := by
      refine ⟨h.held, h.table, ?_⟩
      rw [hnone]
      exact .none
    have hread : Reads (trimmed opened.html).toList content := by
      rw [trimmed, String.toList_ofList]
      exact hhtml.trim
    rw [hclose]
    exact hshows.fragment (reads_heading ⟨opened.level, id, _⟩ hid hread)

theorem Writer.Shows.leave {settings : WriterSettings σ} (h : w.Shows t)
    (hhandler : settings.handler = none) (tag : TagEnd) :
    Writes (leave settings w tag) (t.leave tag) := by
  cases tag with
  | paragraph => exact h.emit fun _ => rfl
  | heading => exact h.leaveHeading settings
  | blockQuote => exact h.emit fun _ => rfl
  | codeBlock =>
    obtain ⟨capture, table, outline, codeBlocks, handlerState⟩ := w
    obtain ⟨held, table', heading⟩ := t
    obtain ⟨rfl, rfl, hheading⟩ := h
    cases capture with
    | code info source =>
      have hshows : Writer.Shows (⟨.nothing, table, outline, codeBlocks, handlerState⟩ : Writer σ)
          ⟨.nothing, table, heading⟩ := ⟨rfl, rfl, hheading⟩
      exact hshows.finishCode hhandler info source
    | nothing => exact Writer.Shows.silent ⟨rfl, rfl, hheading⟩
    | image url title alt => exact Writer.Shows.silent ⟨rfl, rfl, hheading⟩
  | list ordered => cases ordered <;> exact h.emit fun _ => rfl
  | item => exact h.emit fun _ => rfl
  | table =>
    have hboth : Reads "</tbody></table>".toList ["/tbody".toList, "/table".toList] :=
      tags?_eq_some_iff.1 (by decide)
    exact h.emit hboth
  | tableHead =>
    have hall : Reads "</tr></thead><tbody>".toList
        ["/tr".toList, "/thead".toList, "tbody".toList] := tags?_eq_some_iff.1 (by decide)
    refine Writer.Shows.emit ⟨h.held, ?_, h.heading⟩ hall
    rw [h.table]
  | tableRow => exact h.emit fun _ => rfl
  | tableCell =>
    refine Writer.Shows.emit ⟨h.held, ?_, h.heading⟩ ?_
    · rw [h.table]
    · rw [h.table, TableCursor.cellTag]
      cases t.table.inHead <;> exact fun _ => rfl
  | emphasis => exact h.inline "" fun _ => rfl
  | strong => exact h.inline "" fun _ => rfl
  | strikethrough => exact h.inline "" fun _ => rfl
  | link => exact h.inline "" fun _ => rfl
  | image =>
    obtain ⟨capture, table, outline, codeBlocks, handlerState⟩ := w
    obtain ⟨held, table', heading⟩ := t
    obtain ⟨rfl, rfl, hheading⟩ := h
    cases capture with
    | image url title alt =>
      have hshows : Writer.Shows (⟨.nothing, table, outline, codeBlocks, handlerState⟩ : Writer σ)
          ⟨.nothing, table, heading⟩ := ⟨rfl, rfl, hheading⟩
      exact hshows.inline alt (reads_imageTag url title alt)
    | nothing => exact Writer.Shows.silent ⟨rfl, rfl, hheading⟩
    | code info source => exact Writer.Shows.silent ⟨rfl, rfl, hheading⟩
  | htmlBlock | footnote | definitionList | definitionTitle | definition | superscript | subscript
  | metadata => exact h.silent

theorem Writer.Shows.isOpen_eq (h : w.Shows t) : w.outline.isOpen = t.heading.isSome := by
  rw [Outline.isOpen]
  generalize w.outline.current = current, t.heading = heading, h.heading = hheading
  cases hheading <;> rfl

theorem Writer.Shows.step {settings : WriterSettings σ} (h : w.Shows t)
    (hhandler : settings.handler = none) {event : Event} (hraw : event.isRaw = false) :
    Writes (step settings w event) (t.step settings.breaks event) := by
  cases event with
  | enter tag => exact h.enter tag
  | leave tag => exact h.leave hhandler tag
  | text text =>
    have htext := h.inline text (reads_escape text)
    rw [TagWriter.inline_nil] at htext
    exact htext
  | code text =>
    have hstart : Reads "<code>".toList ["code".toList] := fun _ => rfl
    have hend : Reads "</code>".toList ["/code".toList] := fun _ => rfl
    have hall := (hstart.append (reads_escape text)).append hend
    rw [← String.toList_append, ← String.toList_append] at hall
    exact h.inline text hall
  | html text => cases hraw
  | inlineHtml text => cases hraw
  | softBreak =>
    refine h.inline " " ?_
    rw [h.isOpen_eq]
    cases t.heading.isSome <;> cases settings.breaks <;>
      exact tags?_eq_some_iff.1 (by decide)
  | hardBreak => exact h.inline " " fun _ => rfl
  | rule => exact h.emit fun _ => rfl
  | taskMarker checked =>
    cases checked with
    | true =>
      have hbox : Reads "<input type=\"checkbox\" checked disabled> ".toList
          [TagWriter.checkboxTag true] := tags?_eq_some_iff.1 (by decide)
      exact h.emit hbox
    | false =>
      have hbox : Reads "<input type=\"checkbox\" disabled> ".toList
          [TagWriter.checkboxTag false] := tags?_eq_some_iff.1 (by decide)
      exact h.emit hbox
  | footnoteReference name => exact h.silent
  | inlineMath text => exact h.silent
  | displayMath text => exact h.silent

/-! ### All events -/

theorem Writer.Shows.run {settings : WriterSettings σ} (h : w.Shows t)
    (hhandler : settings.handler = none) {events : List Event}
    (hraw : ∀ event ∈ events, event.isRaw = false) :
    Writes (run settings w events) (t.run settings.breaks events) := by
  induction events generalizing w t with
  | nil => exact h.silent
  | cons event events ih =>
    rw [List.forall_mem_cons] at hraw
    obtain ⟨hfirst, hshows⟩ := h.step hhandler hraw.1
    obtain ⟨hrest, hlast⟩ := ih hshows hraw.2
    refine ⟨?_, hlast⟩
    rw [toList_concatHtml] at hfirst hrest ⊢
    rw [Writer.run, TagWriter.run_cons]
    dsimp only
    rw [List.flatMap_append]
    exact hfirst.append hrest

/-- The tags that events write, whatever their texts are. -/
def skeleton (breaks : Bool) (events : List Event) : List (List Char) :=
  (TagWriter.start.run breaks events).1

/-- **A document without raw markup has the tags of its skeleton.** -/
theorem tags?_renderEvents (breaks extractTitle : Bool) (s : σ) {events : List Event}
    (hraw : ∀ event ∈ events, event.isRaw = false) :
    tags? (renderEvents breaks extractTitle none s events).html.toList =
      some (skeleton breaks events) := by
  have hstart : (Writer.start extractTitle s).Shows TagWriter.start := ⟨rfl, rfl, .none⟩
  have hrun : Writes (Writer.run ⟨breaks, none⟩ (Writer.start extractTitle s) events)
      (TagWriter.start.run breaks events) := hstart.run rfl hraw
  exact tags?_eq_some_iff.2 hrun.1

end DiagramDoc
