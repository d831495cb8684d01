import DiagramDoc.Markdown.Leaf
import DiagramDoc.Markdown.Paragraph

/-! # The structure of a document

A document is read line by line: each line first continues the containers that are still open, then
may open new ones, and then starts a leaf, which takes all lines that belong to it. Every block
takes at least one character, so the length of the document bounds the number of blocks.
-/

namespace DiagramDoc.Markdown

inductive Opened where
  | line (builder : Builder) (next : Place)
  | task (builder : Builder) (done : Bool) (text : Cursor)
  | leaf (builder : Builder) (cursor : Cursor)

/-- Reads what follows the marker of an item if no other container can. An item with an empty line
is fresh; in a task, the rest of the line is a paragraph. -/
def openItemLine? (gfm : Bool) (b : Builder) (c : Cursor) : Option Opened :=
  match blankRest? c.rest with
  | some n => some (.line { b with fresh := true } (c.place.advance n))
  | none =>
    match (if gfm then taskMark? c else none) with
    | none => none
    | some (done, behind) =>
      match blankRest? behind.rest with
      | some n => some (.line { b.add (.task done) with fresh := true } (behind.place.advance n))
      | none => some (.task b done behind.skipAll)

/-- What follows the mark of an alert with the end of its line: the quote goes on with the next
line, even if that lacks the marker, unless that line could not go on with a paragraph. What goes on
is a leaf. -/
def openAlert (gfm : Bool) (b : Builder) (next : Place) : Opened :=
  let line := nextLine b.path next
  if line.interrupts gfm b.path then .line b next else .leaf b line.cursor.skipAll

def openContainers (gfm : Bool) : Nat → Builder → Cursor → Opened
  | 0, b, c => .leaf b c
  | fuel + 1, b, c =>
    let (columns, inner) := c.skipUpTo 4
    if 4 ≤ columns then .leaf b c
    else match listMarker? columns inner with
      | some (marker, content) =>
        let b := b.openItem marker
        match openItemLine? gfm b content with
        | some opened => opened
        | none => openContainers gfm fuel b content
      | none =>
        match quoteMarker? inner with
        | none => .leaf b c
        | some content =>
          let b := b.openQuote
          match (if gfm then alert? content.rest else none) with
          | some width => openAlert gfm b (content.place.advance width)
          | none => openContainers gfm fuel b content

def readLeaf (gfm : Bool) (fuel : Nat) (b : Builder) (c : Cursor) : Builder × Place :=
  match blankRest? c.rest with
  | some n => (b.blankLine, c.place.advance n)
  | none =>
    let ended := b.endList
    let (columns, inner) := c.skipUpTo 4
    let cs := inner.rest
    if columns = 4 then
      let code := readIndented ended.path fuel inner
      ({ ended.add (.code none code.text) with afterBlank := code.afterBlank }, code.next)
    else match htmlStart? cs with
      | some ending =>
        let (text, next) :=
          readMarkup ended.path ending fuel (.replicate columns ' ') inner.place
        (ended.add (.html text), next)
      | none =>
        if isThematicBreak cs then
          let width := (lineText cs).length
          (ended.add .rule, inner.place.advance (width + (lineEnd? (cs.drop width)).getD 0))
        else match atxLevel? cs with
          | some level =>
            let (block, next) := readHeading gfm ended.path level inner.place
            (ended.add block, next)
          | none =>
            match codeFence? cs with
            | some fence =>
              let (block, next) := readFenced ended.path fuel columns fence inner.place
              (ended.add block, next)
            | none => addText gfm fuel fuel b inner

def readBlock (gfm : Bool) (fuel : Nat) (b : Builder) (p : Place) : Builder × Place :=
  let (n, c) := b.path.enter p
  match openContainers gfm fuel (b.closeTo n) c with
  | .line b next => (b, next)
  | .task b done text => addParagraph gfm fuel b (some done) text
  | .leaf b c => readLeaf gfm fuel b c

def readBlocks (gfm : Bool) : Nat → Builder → Place → Builder
  | 0, b, _ => b
  | fuel + 1, b, p =>
    if p.rest = [] then b
    else
      let (b, next) := readBlock gfm fuel b p
      readBlocks gfm fuel b next

def parseBlocks (gfm : Bool) (cs : List Char) : List Block × Definitions :=
  let b := readBlocks gfm (cs.length + 1) .empty (.start cs)
  (b.blocks, b.definitions.reverse)

end DiagramDoc.Markdown
