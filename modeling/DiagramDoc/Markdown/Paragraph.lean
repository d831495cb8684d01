import DiagramDoc.Markdown.Block
import DiagramDoc.Markdown.Definition

/-! # Paragraphs

A paragraph takes lines until one interrupts it. It turns out to be a heading when its last line is
an underline, and a table when its second line is a delimiter row that fits the first line. Link
definitions in front of it are no part of it.
-/

namespace DiagramDoc.Markdown

/-- The lines of a paragraph that have been read: their tokens, the offset at which the paragraph
ends, the level of the heading that an underline makes of it, and the place behind it. -/
structure ParagraphLines where
  tokens : List Token
  stop : Nat
  setext : Option Nat
  next : Place

def finalBackslash (lineBreak : Option Token) : List Token :=
  match lineBreak with
  | some ⟨.hardBreak true, start, _⟩ => [⟨.text, start, start + 1⟩]
  | _ => []

/-- Reads the lines of a paragraph from a cursor at the text of one of them, with `seen` as the
tokens before it, the last first. -/
def takeParagraph (gfm : Bool) (path : Path) : Nat → List Token → Cursor → ParagraphLines
  | 0, seen, c => ⟨seen.reverse, c.place.offset, none, c.place⟩
  | fuel + 1, seen, c =>
    let line := takeLine gfm false c.blanks c.place
    let seen := line.tokens.reverse ++ seen
    let ended (stop : Nat) (setext : Option Nat) (next : Place) : ParagraphLines :=
      ⟨seen.reverse ++ finalBackslash line.lineBreak, stop, setext, next⟩
    let next := nextLine path line.next
    let underline := if next.mayStart ∧ next.entered = path.length then
      setextUnderline? next.cursor.rest else none
    match underline with
    | some (level, width) =>
      let behind := next.cursor.place.advance width
      ended behind.offset (some level) behind
    | none =>
      let text := next.cursor.skipAll
      if next.interrupts gfm path ∨ text.atLineEnd then ended line.next.offset none line.next
      else takeParagraph gfm path fuel (line.lineBreak.toList ++ seen) text

/-- Reads the rows of a table behind its delimiter row. A row ends the table if it starts a block or
has no cells. -/
def takeRows (path : Path) (columns : Nat) : Nat → Place → List (List Passage) × Place
  | 0, p => ([], p)
  | fuel + 1, p =>
    match path.enter? p with
    | none => ([], p)
    | some c =>
      let text := c.skipAll
      match (if startsBlock true text.rest then none else takeRow? path columns text.place) with
      | none => ([], p)
      | some row =>
        let (rows, next) := takeRows path columns fuel row.next
        (row.cells :: rows, next)

/-- Reads a paragraph at a cursor, or the heading or table that it turns out to be. A table drops
the mark of a task. -/
def readParagraph (gfm : Bool) (path : Path) (fuel : Nat) (task : Option Bool) (c : Cursor) :
    Block × Place :=
  let table := if gfm ∧ !endsEscaped (lineText c.rest) then tableStart? path c.place else none
  match table with
  | some (alignments, body) =>
    let columns := alignments.length
    let head := ((takeRow? path columns c.place).map Row.cells).getD []
    let (rows, next) := takeRows path columns fuel body
    (.table alignments head rows, next)
  | none =>
    let lines := takeParagraph gfm path fuel [] c
    let text : Passage := ⟨path, false, lines.tokens, c.place, lines.stop⟩
    match lines.setext with
    | some level => (.heading level task text, lines.next)
    | none => (.paragraph task text, lines.next)

def addParagraph (gfm : Bool) (fuel : Nat) (b : Builder) (task : Option Bool) (c : Cursor) :
    Builder × Place :=
  let b := b.endList
  let (block, next) := readParagraph gfm b.path fuel task c
  (b.add block, next)

/-- Adds what stands at a cursor that no other block takes: link definitions, at most `definitions`
of them, and the paragraph behind them. A definition may be the end of it, if the next line would
interrupt a paragraph. -/
def addText (gfm : Bool) (fuel : Nat) : Nat → Builder → Cursor → Builder × Place
  | 0, b, c => addParagraph gfm fuel b none c
  | definitions + 1, b, c =>
    match takeDefinition? gfm b.path c.place with
    | none => addParagraph gfm fuel b none c
    | some definition =>
      let b := (b.define definition.label definition.target).endList
      let p := definition.next.advance ((blankRest? definition.next.rest).getD 0)
      let line := nextLine b.path p
      if line.interrupts gfm b.path then (b, p)
      else addText gfm fuel definitions b line.cursor.skipAll

end DiagramDoc.Markdown
