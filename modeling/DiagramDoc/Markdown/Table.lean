import DiagramDoc.Document.Event
import DiagramDoc.Markdown.Token

/-! # Tables

A table is a row of cells above a row of hyphens, which gives the number of columns and their
alignment, and the rows that follow. Bars separate cells; a bar behind a backslash belongs to its
cell.
-/

namespace DiagramDoc.Markdown

open Text

/-- What has been seen of a delimiter row: the columns before the current one, the alignment of the
current one so far, whether it has no mark yet, whether it has a hyphen, and whether there was a
bar and a hyphen at all. -/
structure DelimiterScan where
  columns : List Alignment
  current : Alignment
  untouched : Bool
  hasHyphen : Bool
  anyBar : Bool
  anyHyphen : Bool

namespace DelimiterScan

/-- One character of a delimiter row. Every column that a bar closes has a hyphen. -/
def step (s : DelimiterScan) (c : Char) : Option DelimiterScan :=
  match c with
  | ' ' => some s
  | ':' =>
    let current := match s.untouched, s.current with
      | true, .unset => Alignment.left
      | false, .left => .center
      | false, .unset => .right
      | _, a => a
    some { s with current := current, untouched := false }
  | '-' => some { s with untouched := false, hasHyphen := true, anyHyphen := true }
  | '|' =>
    if s.hasHyphen then
      some { s with
        columns := s.current :: s.columns, current := .unset, untouched := true
        hasHyphen := false, anyBar := true }
    else none
  | _ => none

end DelimiterScan

/-- The alignments that a delimiter row gives, if the line is one. No tab stands in it, and no more
than three spaces stand in front of it. -/
def delimiterRow? (cs : List Char) : Option (List Alignment) :=
  let line := lineText cs
  let indent := widthWhile (· == ' ') line
  let (bar, row) := match line.drop indent with
    | '|' :: rest => (true, rest)
    | row => (false, row)
  if 3 < indent then none
  else match row.foldlM DelimiterScan.step ⟨[], .unset, true, false, bar, false⟩ with
    | some s =>
      if s.anyBar && s.anyHyphen then
        some (if s.untouched then s.columns else s.current :: s.columns).reverse
      else none
    | none => none

/-- The bars of a line that no backslash precedes, and what stands behind the last of them, with
`bars` of them seen before and `tail` behind the last. -/
def countBars (bars : Nat) (tail : List Char) (escaped : Bool) : List Char → Nat × List Char
  | [] => (bars, tail)
  | c :: rest =>
    if c = '|' && !escaped then countBars (bars + 1) rest false rest
    else countBars bars tail (c = '\\') rest

def headerCells? (line : List Char) : Option Nat :=
  let line := line.dropWhile isLineSpace
  let (bars, tail) := countBars 0 [] false line
  if bars = 0 then none
  else
    let inner := if line.head? = some '|' then bars - 1 else bars
    some (if tail.all isLineSpace then inner else inner + 1)

/-- The columns of the table that a line and the next one open, if they do, and the place behind the
delimiter row. -/
def tableStart? (path : Path) (p : Place) : Option (List Alignment × Place) := do
  let line := lineText p.rest
  let cells ← headerCells? line
  let ending ← lineEnd? (p.rest.drop line.length)
  let c ← if ending = 0 then none else path.enter? (p.advance (line.length + ending))
  let alignments ← delimiterRow? c.rest
  if alignments.length = cells then
    let row := (lineText c.rest).length
    some (alignments, c.place.advance (row + (lineEnd? (c.rest.drop row)).getD 0))
  else none

def endsEscaped (line : List Char) : Bool := (takeEndWhile (· == '\\') line).length % 2 = 1

/-- A row of a table that has been read: its cells, and the place behind the row. -/
structure Row where
  cells : List Passage
  next : Place

/-- Reads the cells of a row, at most `fuel` of them. A bar may stand in front of the first cell and
behind the last one. -/
def takeCells (path : Path) : Nat → Place → Row
  | 0, p => ⟨[], p⟩
  | fuel + 1, p =>
    let bar := if p.rest.head? = some '|' then p.advance 1 else p
    let start := bar.advance (widthWhile isLineSpace bar.rest)
    match lineEnd? start.rest with
    | some n => ⟨[], start.advance n⟩
    | none =>
      let line := takeLine true true 0 start
      let row := takeCells path fuel line.next
      { row with cells := ⟨path, true, line.tokens, start, line.next.offset⟩ :: row.cells }

/-- Reads a row with `columns` columns. Missing cells are empty, and the rest is left out; a line
without cells is no row. -/
def takeRow? (path : Path) (columns : Nat) (p : Place) : Option Row :=
  let row := takeCells path ((lineText p.rest).length + 1) p
  if row.cells = [] then none
  else
    let empty : Passage := ⟨path, true, [], row.next, row.next.offset⟩
    some { row with cells := (row.cells ++ .replicate (columns - row.cells.length) empty).take columns }

end DiagramDoc.Markdown
