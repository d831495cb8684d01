import DiagramDoc.Proofs.Document.Skeleton
import DiagramDoc.Proofs.Html.Nesting
import DiagramDoc.Proofs.Text.Spans

/-! # Nested documents

The events of a document follow a grammar: blocks hold blocks or inlines, inlines hold inlines, the
rows of a table are behind its head, and code holds text. Raw markup and images in the description
of an image are not part of it. What a phrase of the grammar writes is balanced, and so are the tags
that it leaves in an open heading, so the tags of a document are nested.
-/

namespace DiagramDoc

open Html Text

/-! ### The grammar -/

/-- What events may be about: the text of a code block, inlines, blocks, the content of an item,
which may be both, and the parts of lists, tables and definition lists. -/
inductive Phrase where
  | text
  | inlines (inImage : Bool)
  | blocks
  | content
  | items
  | cells
  | rows
  | definitions
  deriving DecidableEq, Repr

def enclose (tag : Tag) (events : List Event) : List Event :=
  [.enter tag] ++ events ++ [.leave tag.toEnd]

/-- An inline event without content. -/
def Event.isLeaf : Event → Bool
  | text _ | code _ | footnoteReference _ | inlineMath _ | displayMath _ | softBreak | hardBreak
  | taskMarker _ => true
  | _ => false

/-- An inline element that may be in any other. -/
def Tag.isSpan : Tag → Bool
  | emphasis | strong | strikethrough | superscript | subscript | link _ _ => true
  | _ => false

inductive Derives : Phrase → List Event → Prop
  | nil {phrase : Phrase} : Derives phrase []
  | append {phrase : Phrase} {events more : List Event} (h : Derives phrase events)
      (hmore : Derives phrase more) : Derives phrase (events ++ more)
  | text {text : String} : Derives .text [.text text]
  | leaf {inImage : Bool} {event : Event} (hleaf : event.isLeaf = true) :
      Derives (.inlines inImage) [event]
  | span {inImage : Bool} {tag : Tag} {events : List Event} (hspan : tag.isSpan = true)
      (h : Derives (.inlines inImage) events) : Derives (.inlines inImage) (enclose tag events)
  | image {url title : String} {events : List Event} (h : Derives (.inlines true) events) :
      Derives (.inlines false) (enclose (.image url title) events)
  | paragraph {events : List Event} (h : Derives (.inlines false) events) :
      Derives .blocks (enclose .paragraph events)
  | heading {level : Nat} {events : List Event} (h : Derives (.inlines false) events) :
      Derives .blocks (enclose (.heading level) events)
  | blockQuote {events : List Event} (h : Derives .blocks events) :
      Derives .blocks (enclose .blockQuote events)
  | fencedCode {info : String} {events : List Event} (h : Derives .text events) :
      Derives .blocks (enclose (.fencedCode info) events)
  | indentedCode {events : List Event} (h : Derives .text events) :
      Derives .blocks (enclose .indentedCode events)
  | htmlBlock {events : List Event} (h : Derives .text events) :
      Derives .blocks (enclose .htmlBlock events)
  | metadata {events : List Event} (h : Derives .text events) :
      Derives .blocks (enclose .metadata events)
  | rule : Derives .blocks [.rule]
  | list {first : Option Nat} {events : List Event} (h : Derives .items events) :
      Derives .blocks (enclose (.list first) events)
  | item {events : List Event} (h : Derives .content events) :
      Derives .items (enclose .item events)
  | contentInlines {events : List Event} (h : Derives (.inlines false) events) :
      Derives .content events
  | contentBlocks {events : List Event} (h : Derives .blocks events) : Derives .content events
  | footnote {events : List Event} (h : Derives .blocks events) :
      Derives .blocks (enclose .footnote events)
  | definitionList {events : List Event} (h : Derives .definitions events) :
      Derives .blocks (enclose .definitionList events)
  | definitionTitle {events : List Event} (h : Derives (.inlines false) events) :
      Derives .definitions (enclose .definitionTitle events)
  | definition {events : List Event} (h : Derives .content events) :
      Derives .definitions (enclose .definition events)
  | table {alignments : List Alignment} {head body : List Event} (hhead : Derives .cells head)
      (hbody : Derives .rows body) :
      Derives .blocks (enclose (.table alignments) (enclose .tableHead head ++ body))
  | row {events : List Event} (h : Derives .cells events) :
      Derives .rows (enclose .tableRow events)
  | cell {events : List Event} (h : Derives (.inlines false) events) :
      Derives .cells (enclose .tableCell events)

theorem Derives.isRaw_eq_false {phrase : Phrase} {events : List Event}
    (h : Derives phrase events) : ∀ event ∈ events, event.isRaw = false := by
  have henclose {tag : Tag} {events : List Event} (h : ∀ event ∈ events, event.isRaw = false) :
      ∀ event ∈ enclose tag events, event.isRaw = false := by
    rw [enclose, List.forall_mem_append, List.forall_mem_append, List.forall_mem_singleton,
      List.forall_mem_singleton]
    exact ⟨⟨rfl, h⟩, rfl⟩
  induction h with
  | nil => exact List.forall_mem_nil _
  | append _ _ ih ihmore => exact List.forall_mem_append.2 ⟨ih, ihmore⟩
  | text | rule => exact List.forall_mem_singleton.2 rfl
  | @leaf _ event hleaf =>
    rw [List.forall_mem_singleton]
    cases event with
    | html text | inlineHtml text => cases hleaf
    | _ => rfl
  | table _ _ ihhead ihbody =>
    exact henclose (List.forall_mem_append.2 ⟨henclose ihhead, ihbody⟩)
  | contentInlines _ ih | contentBlocks _ ih => exact ih
  | span _ _ ih | image _ ih | paragraph _ ih | heading _ ih | blockQuote _ ih | fencedCode _ ih
  | indentedCode _ ih | htmlBlock _ ih | metadata _ ih | list _ ih | item _ ih | footnote _ ih
  | definitionList _ ih | definitionTitle _ ih | definition _ ih | row _ ih | cell _ ih =>
    exact henclose ih

/-! ### A writer of tags -/

namespace TagWriter

variable {breaks : Bool} {tags : List (List Char)}

/-- A writer between blocks. -/
def idle (table : TableCursor) : TagWriter := ⟨.nothing, table, none⟩

def isIdle (w : TagWriter) : Bool := w.held == .nothing && w.heading.isNone

theorem inline_fst (w : TagWriter) (tags : List (List Char)) :
    (w.inline tags).1 = if w.isIdle then tags else [] := by
  obtain ⟨held, table, heading⟩ := w
  cases held <;> cases heading <;> rfl

theorem isIdle_inline (w : TagWriter) (tags : List (List Char)) :
    (w.inline tags).2.isIdle = w.isIdle := by
  obtain ⟨held, table, heading⟩ := w
  cases held <;> cases heading <;> rfl

theorem held_inline (w : TagWriter) (tags : List (List Char)) :
    (w.inline tags).2.held = w.held := by
  obtain ⟨held, table, heading⟩ := w
  cases held <;> cases heading <;> rfl

theorem inline_inline (w : TagWriter) (tags more : List (List Char)) :
    ((w.inline tags).2.inline more).2 = (w.inline (tags ++ more)).2 := by
  obtain ⟨held, table, heading⟩ := w
  cases held <;> cases heading <;> simp [inline]

theorem balanced_inline_fst (w : TagWriter) (h : Balanced tags) : Balanced (w.inline tags).1 := by
  rw [inline_fst]
  split
  · exact h
  · exact balanced_nil

theorem run_append (w : TagWriter) (events more : List Event) :
    w.run breaks (events ++ more) =
      ((w.run breaks events).1 ++ ((w.run breaks events).2.run breaks more).1,
        ((w.run breaks events).2.run breaks more).2) := by
  induction events generalizing w with
  | nil => rfl
  | cons event events ih =>
    rw [List.cons_append, run_cons, run_cons, ih, List.append_assoc]

theorem run_singleton (w : TagWriter) (event : Event) :
    w.run breaks [event] = w.step breaks event := by
  rw [run_cons, run_nil, List.append_nil]

theorem run_enclose (w : TagWriter) (tag : Tag) (events : List Event) :
    w.run breaks (enclose tag events) =
      ((w.enter tag).1 ++ ((w.enter tag).2.run breaks events).1 ++
          (((w.enter tag).2.run breaks events).2.leave tag.toEnd).1,
        (((w.enter tag).2.run breaks events).2.leave tag.toEnd).2) := by
  have henter (w : TagWriter) : w.step breaks (.enter tag) = w.enter tag := rfl
  have hleave (w : TagWriter) : w.step breaks (.leave tag.toEnd) = w.leave tag.toEnd := rfl
  rw [enclose, run_append, run_append, run_singleton, run_singleton, henter, hleave]

end TagWriter

/-! ### Balanced phrases -/

/-- Inlines write balanced tags, and leave balanced tags in an open heading. -/
def WritesInline (breaks : Bool) (w : TagWriter) (events : List Event) : Prop :=
  ∃ inside written, Balanced inside ∧ Balanced written ∧
    w.run breaks events = (written, (w.inline inside).2)

/-- Between blocks, events write balanced tags, and what is behind them is between blocks again. -/
def WritesBlock (breaks : Bool) (events : List Event) : Prop :=
  ∀ table, ∃ written table', Balanced written ∧
    (TagWriter.idle table).run breaks events = (written, .idle table')

/-- What a phrase of each kind does to a writer of tags. -/
def Phrase.Meaning (breaks : Bool) (events : List Event) : Phrase → Prop
  | text => ∀ w : TagWriter, w.run breaks events = ([], w)
  | inlines inImage =>
    ∀ w : TagWriter, (inImage = false → w.held = .nothing) → WritesInline breaks w events
  | _ => WritesBlock breaks events

section Meaning

variable {breaks : Bool} {w : TagWriter} {events more : List Event}

theorem writesInline_nil : WritesInline breaks w [] :=
  ⟨[], [], balanced_nil, balanced_nil, by rw [TagWriter.inline_nil, TagWriter.run_nil]⟩

theorem WritesInline.append (h : WritesInline breaks w events)
    (hmore : ∀ tags, WritesInline breaks (w.inline tags).2 more) :
    WritesInline breaks w (events ++ more) := by
  obtain ⟨inside, written, hinside, hwritten, hrun⟩ := h
  obtain ⟨inside', written', hinside', hwritten', hrun'⟩ := hmore inside
  refine ⟨inside ++ inside', written ++ written', hinside.append hinside',
    hwritten.append hwritten', ?_⟩
  rw [TagWriter.run_append, hrun, hrun', TagWriter.inline_inline]

theorem writesInline_leaf {event : Event} (hleaf : event.isLeaf = true) :
    WritesInline breaks w [event] := by
  have hinline {tags : List (List Char)} (htags : Balanced tags)
      (hstep : w.step breaks event = w.inline tags) : WritesInline breaks w [event] :=
    ⟨tags, _, htags, w.balanced_inline_fst htags, by rw [TagWriter.run_singleton, hstep]⟩
  have hwrite {tags : List (List Char)} (htags : Balanced tags)
      (hstep : w.step breaks event = (tags, w)) : WritesInline breaks w [event] :=
    ⟨[], tags, balanced_nil, htags, by rw [TagWriter.run_singleton, hstep, TagWriter.inline_nil]⟩
  have hbreak : Balanced ["br".toList] := balanced_void (by decide)
  cases event with
  | code text =>
    have hcode := balanced_nil.element (by decide : IsStart "code".toList)
    exact hinline hcode rfl
  | softBreak =>
    refine hinline ?_ rfl
    split
    · exact hbreak
    · exact balanced_nil
  | hardBreak => exact hinline hbreak rfl
  | taskMarker checked => exact hwrite (balanced_void (by cases checked <;> decide)) rfl
  | text text | footnoteReference text | inlineMath text | displayMath text =>
    exact hwrite balanced_nil rfl
  | enter tag | leave tag | html text | inlineHtml text | rule => cases hleaf

/-- A span starts and ends with inline tags that are balanced around balanced ones, if it has
any. -/
theorem exists_tags_of_isSpan {tag : Tag} (hspan : tag.isSpan = true) :
    ∃ first last, (∀ w : TagWriter, w.enter tag = w.inline first) ∧
      (∀ w : TagWriter, w.leave tag.toEnd = w.inline last) ∧
        ∀ {tags : List (List Char)}, Balanced tags → Balanced (first ++ tags ++ last) := by
  have hsilent {tags : List (List Char)} (h : Balanced tags) : Balanced ([] ++ tags ++ []) :=
    (balanced_nil.append h).append balanced_nil
  have hnone (w : TagWriter) : ([], w) = w.inline [] := w.inline_nil.symm
  cases tag with
  | emphasis => exact ⟨_, _, fun _ => rfl, fun _ => rfl, fun h => h.element (by decide)⟩
  | strong => exact ⟨_, _, fun _ => rfl, fun _ => rfl, fun h => h.element (by decide)⟩
  | strikethrough => exact ⟨_, _, fun _ => rfl, fun _ => rfl, fun h => h.element (by decide)⟩
  | link url title =>
    have hstart (titled : Bool) : IsStart (TagWriter.linkTag titled) ∧
        "/a".toList = '/' :: tagName (TagWriter.linkTag titled) := by
      cases titled <;> decide
    refine ⟨_, _, fun _ => rfl, fun _ => rfl, fun h => ?_⟩
    rw [(hstart _).2]
    exact h.element (hstart _).1
  | superscript => exact ⟨[], [], hnone, hnone, hsilent⟩
  | subscript => exact ⟨[], [], hnone, hnone, hsilent⟩
  | _ => cases hspan

theorem WritesInline.span {tag : Tag} (hspan : tag.isSpan = true)
    (h : ∀ tags, WritesInline breaks (w.inline tags).2 events) :
    WritesInline breaks w (enclose tag events) := by
  obtain ⟨first, last, hfirst, hlast, hbalanced⟩ := exists_tags_of_isSpan hspan
  obtain ⟨inside, written, hinside, hwritten, hrun⟩ := h first
  have hwhole : w.run breaks (enclose tag events) =
      ((if w.isIdle then first else []) ++ written ++ (if w.isIdle then last else []),
        (w.inline (first ++ inside ++ last)).2) := by
    rw [TagWriter.run_enclose, hfirst, hrun, hlast, TagWriter.inline_fst, TagWriter.inline_fst,
      TagWriter.isIdle_inline, TagWriter.isIdle_inline, TagWriter.inline_inline,
      TagWriter.inline_inline]
  refine ⟨_, _, hbalanced hinside, ?_, hwhole⟩
  split
  · exact hbalanced hwritten
  · exact (balanced_nil.append hwritten).append balanced_nil

/-- What is written while the description is kept back is not part of the image. -/
theorem WritesInline.image {url title : String} (hheld : w.held = .nothing)
    (h : WritesInline breaks { w with held := .image (title ≠ "") } events) :
    WritesInline breaks w (enclose (.image url title) events) := by
  obtain ⟨held, table, heading⟩ := w
  obtain rfl : held = .nothing := hheld
  obtain ⟨inside, written, -, hwritten, hrun⟩ := h
  have hkept : (TagWriter.inline ⟨.image (title ≠ ""), table, heading⟩ inside).2 =
      ⟨.image (title ≠ ""), table, heading⟩ := rfl
  have henter : TagWriter.enter ⟨.nothing, table, heading⟩ (.image url title) =
      ([], ⟨.image (title ≠ ""), table, heading⟩) := rfl
  have hleave : TagWriter.leave ⟨.image (title ≠ ""), table, heading⟩ (Tag.image url title).toEnd =
      TagWriter.inline ⟨.nothing, table, heading⟩ [TagWriter.imageTag (title ≠ "")] := rfl
  have hwhole : TagWriter.run breaks ⟨.nothing, table, heading⟩
      (enclose (.image url title) events) = (written ++ (TagWriter.inline ⟨.nothing, table, heading⟩
        [TagWriter.imageTag (title ≠ "")]).1, (TagWriter.inline ⟨.nothing, table, heading⟩
          [TagWriter.imageTag (title ≠ "")]).2) := by
    rw [TagWriter.run_enclose, henter, hrun, hkept, hleave, List.nil_append]
  have himage (titled : Bool) : Balanced [TagWriter.imageTag titled] :=
    balanced_void (by cases titled <;> decide)
  exact ⟨_, _, himage _, hwritten.append (TagWriter.balanced_inline_fst _ (himage _)), hwhole⟩

/-! ### Blocks -/

theorem WritesInline.writesBlock
    (h : ∀ table, WritesInline breaks (.idle table) events) : WritesBlock breaks events := by
  intro table
  obtain ⟨inside, written, hinside, hwritten, hrun⟩ := h table
  exact ⟨written, table, hwritten, hrun⟩

theorem writesBlock_nil : WritesBlock breaks [] :=
  fun table => ⟨[], table, balanced_nil, rfl⟩

theorem WritesBlock.append (h : WritesBlock breaks events) (hmore : WritesBlock breaks more) :
    WritesBlock breaks (events ++ more) := by
  intro table
  obtain ⟨written, table', hwritten, hrun⟩ := h table
  obtain ⟨written', table'', hwritten', hrun'⟩ := hmore table'
  exact ⟨written ++ written', table'', hwritten.append hwritten', by
    rw [TagWriter.run_append, hrun, hrun']⟩

/-- A block whose tags are balanced around balanced ones. -/
theorem WritesBlock.enclose {tag : Tag} {first last : List (List Char)}
    (hfirst : ∀ table, ∃ table', (TagWriter.idle table).enter tag = (first, .idle table'))
    (hlast : ∀ table, ∃ table', (TagWriter.idle table).leave tag.toEnd = (last, .idle table'))
    (hbalanced : ∀ {tags : List (List Char)}, Balanced tags → Balanced (first ++ tags ++ last))
    (h : WritesBlock breaks events) : WritesBlock breaks (enclose tag events) := by
  intro table
  obtain ⟨table₁, henter⟩ := hfirst table
  obtain ⟨written, table₂, hwritten, hrun⟩ := h table₁
  obtain ⟨table₃, hleave⟩ := hlast table₂
  exact ⟨_, table₃, hbalanced hwritten, by
    rw [TagWriter.run_enclose, henter, hrun, hleave]⟩

theorem WritesBlock.element {tag : Tag} {start : List Char} (hstart : IsStart start)
    (hfirst : ∀ table, ∃ table', (TagWriter.idle table).enter tag = ([start], .idle table'))
    (hlast : ∀ table, ∃ table', (TagWriter.idle table).leave tag.toEnd =
      (['/' :: tagName start], .idle table'))
    (h : WritesBlock breaks events) : WritesBlock breaks (DiagramDoc.enclose tag events) :=
  h.enclose hfirst hlast fun hbalanced => hbalanced.element hstart

/-- A block that writes no tags of its own. -/
theorem WritesBlock.silent {tag : Tag} (hfirst : ∀ w : TagWriter, w.enter tag = ([], w))
    (hlast : ∀ w : TagWriter, w.leave tag.toEnd = ([], w)) (h : WritesBlock breaks events) :
    WritesBlock breaks (DiagramDoc.enclose tag events) :=
  h.enclose (fun table => ⟨table, hfirst _⟩) (fun table => ⟨table, hlast _⟩) fun hbalanced =>
    (balanced_nil.append hbalanced).append balanced_nil

theorem WritesBlock.list {first : Option Nat} (h : WritesBlock breaks events) :
    WritesBlock breaks (DiagramDoc.enclose (.list first) events) := by
  have htags : IsStart (TagWriter.listTag first) ∧ ∀ table,
      (TagWriter.idle table).leave (Tag.list first).toEnd =
        (['/' :: tagName (TagWriter.listTag first)], .idle table) := by
    match first with
    | none => exact ⟨by decide, fun _ => rfl⟩
    | some 0 => exact ⟨by decide, fun _ => rfl⟩
    | some 1 => exact ⟨by decide, fun _ => rfl⟩
    | some (n + 2) =>
      have hnumber : TagWriter.listTag (some (n + 2)) = "ol start=\"\"".toList := rfl
      rw [hnumber]
      exact ⟨by decide, fun _ => rfl⟩
  exact h.element htags.1 (fun table => ⟨table, rfl⟩) fun table => ⟨table, htags.2 table⟩

theorem writesBlock_of_text (h : ∀ w : TagWriter, w.run breaks events = ([], w)) :
    WritesBlock breaks events :=
  fun table => ⟨[], table, balanced_nil, h _⟩

theorem writesBlock_code {tag : Tag}
    (hfirst : ∀ w : TagWriter, w.enter tag = ([], { w with held := .code }))
    (hlast : tag.toEnd = .codeBlock) (h : ∀ w : TagWriter, w.run breaks events = ([], w)) :
    WritesBlock breaks (enclose tag events) := by
  intro table
  have hcode : Balanced (["code class=\"\"".toList] ++ [] ++ ["/code".toList]) :=
    balanced_nil.element (by decide)
  have hpre : Balanced TagWriter.codeTags := hcode.element (by decide : IsStart "pre".toList)
  refine ⟨TagWriter.codeTags, table, hpre, ?_⟩
  rw [TagWriter.run_enclose, hfirst, h, hlast]
  rfl

theorem balanced_headingTags (level : Nat) {content : List (List Char)} (h : Balanced content) :
    Balanced (TagWriter.headingTags level content) := by
  have hdigits : ∀ c ∈ TagWriter.headingName level, decide (c ≠ ' ') = true := by
    rw [TagWriter.headingName, List.forall_mem_append]
    refine ⟨List.forall_mem_singleton.2 rfl, fun c hc => ?_⟩
    have hdigit := isDigit_of_mem_toString hc
    rw [decide_eq_true_eq]
    rintro rfl
    revert hdigit
    decide
  have hname : tagName (TagWriter.headingName level ++ " id=\"\"".toList) =
      TagWriter.headingName level := takeWhile_append hdigits (stops_cons.2 (by decide))
  have hvoid : TagWriter.headingName level ∉ voidNames := by
    -- only the rule has a name that starts like a heading's, and its other letter is no digit
    intro hmem
    have hrule : 'h' :: (toString level).toList = ['h', 'r'] := by
      simpa [voidNames, TagWriter.headingName] using hmem
    have hdigit : 'r'.isDigit = true := by
      apply isDigit_of_mem_toString (n := level)
      rw [(List.cons.inj hrule).2]
      exact List.mem_singleton_self _
    revert hdigit
    decide
  have hstart : IsStart (TagWriter.headingName level ++ " id=\"\"".toList) := by
    refine ⟨?_, by rwa [hname]⟩
    rw [TagWriter.headingName]
    exact fun hhead => absurd (Option.some.inj hhead) (by decide)
  have hall := h.element hstart
  rw [hname] at hall
  exact hall

theorem writesBlock_heading {level : Nat}
    (h : ∀ w : TagWriter, w.held = .nothing → WritesInline breaks w events) :
    WritesBlock breaks (enclose (.heading level) events) := by
  intro table
  obtain ⟨inside, written, hinside, hwritten, hrun⟩ := h ⟨.nothing, table, some (level, [])⟩ rfl
  have henter : (TagWriter.idle table).enter (.heading level) =
      ([], ⟨.nothing, table, some (level, [])⟩) := rfl
  have hleave : (TagWriter.inline ⟨.nothing, table, some (level, [])⟩ inside).2.leave
      (Tag.heading level).toEnd = (TagWriter.headingTags level inside, .idle table) := rfl
  refine ⟨written ++ TagWriter.headingTags level inside, table,
    hwritten.append (balanced_headingTags level hinside), ?_⟩
  rw [TagWriter.run_enclose, henter, hrun, hleave, List.nil_append]

/-- The name of a cell's element is the same at its end, since inlines keep the place in the
table. -/
theorem writesBlock_cell (h : ∀ table, WritesInline breaks (.idle table) events) :
    WritesBlock breaks (enclose .tableCell events) := by
  intro table
  obtain ⟨inside, written, -, hwritten, hrun⟩ := h table
  have henter : (TagWriter.idle table).enter .tableCell =
      ([TagWriter.cellTag table], .idle table) := rfl
  have hleave : ((TagWriter.idle table).inline inside).2.leave Tag.tableCell.toEnd =
      (["/".toList ++ table.cellTag.toList],
        .idle { table with column := table.column + 1 }) := rfl
  have hcell : IsStart (TagWriter.cellTag table) ∧
      "/".toList ++ table.cellTag.toList = '/' :: tagName (TagWriter.cellTag table) := by
    rw [TagWriter.cellTag, TableCursor.cellTag]
    cases table.inHead <;> rcases table.alignments[table.column]? with _ | _ | _ | _ | _ <;> decide
  refine ⟨_, { table with column := table.column + 1 }, hwritten.element hcell.1, ?_⟩
  rw [TagWriter.run_enclose, henter, hrun, hleave, hcell.2]

theorem WritesBlock.table {alignments : List Alignment} {head body : List Event}
    (hhead : WritesBlock breaks head) (hbody : WritesBlock breaks body) :
    WritesBlock breaks
      (DiagramDoc.enclose (.table alignments) (DiagramDoc.enclose .tableHead head ++ body)) := by
  intro table
  obtain ⟨cells, table₁, hcells, hrun⟩ := hhead ⟨alignments, 0, true⟩
  obtain ⟨rows, table₂, hrows, hrun'⟩ := hbody { table₁ with inHead := false }
  have henter : (TagWriter.idle table).enter (.table alignments) =
      (["table".toList], .idle ⟨alignments, 0, false⟩) := rfl
  have henterHead : (TagWriter.idle ⟨alignments, 0, false⟩).enter .tableHead =
      (["thead".toList, "tr".toList], .idle ⟨alignments, 0, true⟩) := rfl
  have hleaveHead : (TagWriter.idle table₁).leave Tag.tableHead.toEnd =
      (["/tr".toList, "/thead".toList, "tbody".toList],
        .idle { table₁ with inHead := false }) := rfl
  have hleave : (TagWriter.idle table₂).leave (Tag.table alignments).toEnd =
      (["/tbody".toList, "/table".toList], .idle table₂) := rfl
  have hrow := hcells.element (by decide : IsStart "tr".toList)
  have hheadTags := hrow.element (by decide : IsStart "thead".toList)
  have hbodyTags := hrows.element (by decide : IsStart "tbody".toList)
  have hall := (hheadTags.append hbodyTags).element (by decide : IsStart "table".toList)
  refine ⟨_, table₂, hall, ?_⟩
  rw [TagWriter.run_enclose, henter, TagWriter.run_append, TagWriter.run_enclose, henterHead, hrun,
    hleaveHead, hrun', hleave]
  simp only [List.append_assoc, List.cons_append, List.nil_append]
  rfl

end Meaning

theorem Derives.meaning {phrase : Phrase} {events : List Event} (h : Derives phrase events)
    (breaks : Bool) : phrase.Meaning breaks events := by
  -- inlines are written between blocks, into a heading, and while an image holds them back, so
  -- their meaning is for every writer; all else begins and ends between blocks
  induction h with
  | @nil phrase =>
    cases phrase with
    | text => exact fun _ => rfl
    | inlines inImage => exact fun _ _ => writesInline_nil
    | _ => exact writesBlock_nil
  | @append phrase events more _ _ ih ihmore =>
    cases phrase with
    | text =>
      intro w
      rw [TagWriter.run_append, ih w, ihmore w, List.nil_append]
    | inlines inImage =>
      intro w hheld
      refine (ih w hheld).append fun tags => ihmore _ fun hoff => ?_
      rw [TagWriter.held_inline, hheld hoff]
    | _ => exact WritesBlock.append ih ihmore
  | text => exact fun _ => rfl
  | leaf hleaf => exact fun _ _ => writesInline_leaf hleaf
  | span hspan _ ih =>
    intro w hheld
    refine WritesInline.span hspan fun tags => ih _ fun hoff => ?_
    rw [TagWriter.held_inline, hheld hoff]
  | image _ ih =>
    intro w hheld
    exact WritesInline.image (hheld rfl) (ih _ fun hoff => absurd hoff (by decide))
  | paragraph _ ih =>
    exact (WritesInline.writesBlock fun table => ih _ fun _ => rfl).element
      (by decide : IsStart "p".toList) (fun table => ⟨table, rfl⟩) fun table => ⟨table, rfl⟩
  | heading _ ih => exact writesBlock_heading fun w hheld => ih w fun _ => hheld
  | blockQuote _ ih =>
    exact WritesBlock.element (by decide : IsStart "blockquote".toList)
      (fun table => ⟨table, rfl⟩) (fun table => ⟨table, rfl⟩) ih
  | fencedCode _ ih | indentedCode _ ih => exact writesBlock_code (fun _ => rfl) rfl ih
  | htmlBlock _ ih | metadata _ ih =>
    exact (writesBlock_of_text ih).silent (fun _ => rfl) fun _ => rfl
  | rule => exact fun table => ⟨["hr".toList], table, balanced_void (by decide), rfl⟩
  | list _ ih => exact WritesBlock.list ih
  | item _ ih =>
    exact WritesBlock.element (by decide : IsStart "li".toList)
      (fun table => ⟨table, rfl⟩) (fun table => ⟨table, rfl⟩) ih
  | contentInlines _ ih => exact WritesInline.writesBlock fun table => ih _ fun _ => rfl
  | contentBlocks _ ih => exact ih
  | footnote _ ih | definitionList _ ih | definition _ ih =>
    exact WritesBlock.silent (fun _ => rfl) (fun _ => rfl) ih
  | definitionTitle _ ih =>
    exact (WritesInline.writesBlock fun table => ih _ fun _ => rfl).silent (fun _ => rfl)
      fun _ => rfl
  | table _ _ ihhead ihbody => exact WritesBlock.table ihhead ihbody
  | row _ ih =>
    exact WritesBlock.element (by decide : IsStart "tr".toList)
      (fun table => ⟨{ table with column := 0 }, rfl⟩) (fun table => ⟨table, rfl⟩) ih
  | cell _ ih => exact writesBlock_cell fun table => ih _ fun _ => rfl

/-- **The tags of a document are nested.** -/
theorem Derives.isNested_renderEvents {σ : Type} {events : List Event}
    (h : Derives .blocks events) (breaks extractTitle : Bool) (s : σ) :
    isNested (renderEvents breaks extractTitle none s events).html.toList = true := by
  have htags := tags?_renderEvents breaks extractTitle s h.isRaw_eq_false
  obtain ⟨written, table, hwritten, hrun⟩ := h.meaning breaks .empty
  have hstart : TagWriter.start = .idle .empty := rfl
  rw [skeleton, hstart, hrun] at htags
  exact hwritten.isNested htags

/-- A heading with an image, a list in a list, a table, and code in a quotation. -/
def mixedDocument : List Event :=
  enclose (.heading 1) ([.text "A & B"] ++ enclose .emphasis [.code "x"] ++
    enclose (.image "i.png" "t") ([.text "y"] ++ enclose (.link "u" "") [.softBreak])) ++
  enclose (.list none) (enclose .item ([.taskMarker true] ++ enclose .superscript [.text "a"] ++
    enclose (.list (some 3)) (enclose .item (enclose .paragraph [.hardBreak])))) ++
  enclose (.table [.left]) (enclose .tableHead (enclose .tableCell [.text "h"]) ++
    enclose .tableRow (enclose .tableCell (enclose .strong [.text "c"]) ++
      enclose .tableCell [])) ++
  enclose .blockQuote (enclose (.fencedCode "rust") [.text "1 < 2"] ++ [.rule])

theorem isNested_renderEvents_mixedDocument : Derives .blocks mixedDocument ∧
    isNested (renderEvents true true none () mixedDocument).html.toList = true := by
  have hheading : Derives (.inlines false) ([.text "A & B"] ++ enclose .emphasis [.code "x"] ++
      enclose (.image "i.png" "t") ([.text "y"] ++ enclose (.link "u" "") [.softBreak])) :=
    ((Derives.leaf rfl).append (.span rfl (.leaf rfl))).append
      (.image ((Derives.leaf rfl).append (.span rfl (.leaf rfl))))
  have hitem : Derives .content ([.taskMarker true] ++ enclose .superscript [.text "a"] ++
      enclose (.list (some 3)) (enclose .item (enclose .paragraph [.hardBreak]))) :=
    (Derives.contentInlines ((Derives.leaf rfl).append (.span rfl (.leaf rfl)))).append
      (.contentBlocks (.list (.item (.contentBlocks (.paragraph (.leaf rfl))))))
  have hrow : Derives .rows (enclose .tableRow (enclose .tableCell (enclose .strong [.text "c"]) ++
      enclose .tableCell [])) :=
    .row ((Derives.cell (.span rfl (.leaf rfl))).append (.cell .nil))
  have hquote : Derives .blocks (enclose (.fencedCode "rust") [.text "1 < 2"] ++ [.rule]) :=
    (Derives.fencedCode .text).append .rule
  have hall : Derives .blocks mixedDocument :=
    (((Derives.heading hheading).append (.list (.item hitem))).append
      (.table (.cell (.leaf rfl)) hrow)).append (.blockQuote hquote)
  exact ⟨hall, hall.isNested_renderEvents true true ()⟩

end DiagramDoc
