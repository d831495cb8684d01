import DiagramDoc.Markdown.RawHtml
import DiagramDoc.Markdown.Table

/-! # Interruptions

A paragraph goes on with the next line, even if that line lacks the markers of the paragraph's
containers, unless the line is blank or starts a block of its own. Not every start of a block
counts: an empty item, an item that is not the first of a numbered list, indented code and markup
with just any tag do not end a paragraph in their own container.
-/

namespace DiagramDoc.Markdown

open Text

/-- Whether a line starts a block other than a table, or is empty. With `anyItem` every list item
counts. -/
def startsBlock (anyItem : Bool) (cs : List Char) : Bool :=
  atLineEnd cs || isThematicBreak cs || (atxLevel? cs).isSome || (codeFence? cs).isSome ||
    cs.head? == some '>' || (if anyItem then startsItem cs else itemInterrupts cs) ||
    (htmlInterruption? cs).isSome

/-- Whether a line ends the paragraph before it, seen from the first character behind its
containers, `entered` of which it goes along with. -/
def interrupts (gfm : Bool) (path : Path) (entered : Nat) (p : Place) : Bool :=
  startsBlock (entered ≠ path.length) p.rest ||
    (gfm && p.rest.head? = some '|' && (tableStart? path p).isSome)

structure NextLine where
  entered : Nat
  cursor : Cursor
  mayStart : Bool

def nextLine (path : Path) (p : Place) : NextLine :=
  let (entered, c) := path.enter p
  let (missing, inner) := c.skip 4
  ⟨entered, inner, missing ≠ 0⟩

def NextLine.interrupts (gfm : Bool) (path : Path) (line : NextLine) : Bool :=
  line.mayStart && Markdown.interrupts gfm path line.entered line.cursor.place

end DiagramDoc.Markdown
