import DiagramDoc.Markdown.Inline
import DiagramDoc.Markdown.Structure
import DiagramDoc.Text.Bytes

/-! # Markdown documents

The events of a Markdown document: its blocks, and inside of them the events of their text. Links
may be defined behind their use, so text is read only when all definitions are known. The blocks
are flattened first, and then the passages are read in their order, because the targets of link
definitions that a document may use up altogether are limited.
-/

namespace DiagramDoc.Markdown

open Text

inductive Segment where
  | event (event : Event)
  | passage (passage : Passage)

def element (tag : Tag) (content : List Segment) : List Segment :=
  .event (.enter tag) :: content ++ [.event (.leave tag.toEnd)]

def cellSegments (cells : List Passage) : List Segment :=
  cells.flatMap fun cell => element .tableCell [.passage cell]

def taskSegments (task : Option Bool) (text : Passage) : List Segment :=
  task.toList.map (.event ∘ .taskMarker) ++ [.passage text]

mutual

/-- The segments of a block. In a tight list a paragraph is only its text. -/
def blockSegments (tight : Bool) : Block → List Segment
  | .paragraph task text =>
    if tight then taskSegments task text else element .paragraph (taskSegments task text)
  | .heading level task text => element (.heading level) (taskSegments task text)
  | .task done => [.event (.taskMarker done)]
  | .code info cs =>
    let tag := match info with
      | some info => Tag.fencedCode (String.ofList info)
      | none => .indentedCode
    element tag [.event (.text (String.ofList cs))]
  | .html cs => element .htmlBlock [.event (.html (String.ofList cs))]
  | .rule => [.event .rule]
  | .table alignments head rows =>
    element (.table alignments) (element .tableHead (cellSegments head) ++
      rows.flatMap fun row => element .tableRow (cellSegments row))
  | .quote blocks => element .blockQuote (blocksSegments false blocks)
  | .list start tight items => element (.list start) (itemsSegments tight items)

def blocksSegments (tight : Bool) : List Block → List Segment
  | [] => []
  | block :: rest => blockSegments tight block ++ blocksSegments tight rest

def itemsSegments (tight : Bool) : List (List Block) → List Segment
  | [] => []
  | item :: rest => element .item (blocksSegments tight item) ++ itemsSegments tight rest

end

def segmentEvents (definitions : Definitions) (budget : Nat) : List Segment → List Event
  | [] => []
  | .event event :: rest => event :: segmentEvents definitions budget rest
  | .passage passage :: rest =>
    let (events, budget) := passage.events definitions budget
    events ++ segmentEvents definitions budget rest

/-- The bytes of targets that the links of a document may take from definitions. -/
def targetBudget (document : List Char) : Nat := max (byteCount document) 100000

/-- The events of a document. With `gfm` it may have tables, struck text, tasks and alerts. -/
def events (gfm : Bool) (markdown : String) : List Event :=
  let document := markdown.toList
  let (blocks, definitions) := parseBlocks gfm document
  segmentEvents definitions (targetBudget document) (blocksSegments false blocks)

end DiagramDoc.Markdown
