import DiagramDoc.Markdown.Cursor
import DiagramDoc.Text.AsciiCase

/-! # Markers of blocks

What a line says about its block, seen from the first character behind the indentation: a thematic
break, the markers of headings, the fences of code, the markers of lists and of block quotes. What
follows the line is given, too, and is not looked at.
-/

namespace DiagramDoc.Markdown

open Text

/-- A thematic break: three or more of one mark, with blanks between them. -/
def isThematicBreak (cs : List Char) : Bool :=
  match cs with
  | c :: _ =>
    (c == '*' || c == '-' || c == '_') &&
      let line := lineText cs
      line.all (fun d => d = c || d = ' ' || d = '\t') && 3 ≤ line.count c
  | [] => false

def atxLevel? (cs : List Char) : Option Nat :=
  let level := widthWhile (· == '#') cs
  if 1 ≤ level ∧ level ≤ 6 ∧ ((cs.drop level).head?.all isAsciiSpace) then some level else none

/-- Where the text of a heading ends that opens with number signs: blanks at its end are left out,
and so is a run of number signs behind a space. The text is given with the end of its line. -/
def atxTextWidth (text : List Char) : Nat :=
  let text := dropEndWhile (fun c => c = ' ' || c = '\n' || c = '\r') text
  let unclosed := dropEndWhile (· == '#') text
  let body := dropEndWhile (· == ' ') unclosed
  if unclosed = [] then 0
  else if body.length < unclosed.length then body.length else text.length

/-- The level of a heading whose text ends with this underline, and the width of the underline with
the end of its line. -/
def setextUnderline? (cs : List Char) : Option (Nat × Nat) :=
  match cs with
  | c :: _ =>
    if c = '=' ∨ c = '-' then
      let width := widthWhile (· == c) cs
      (blankRest? (cs.drop width)).map fun n => (if c = '=' then 1 else 2, width + n)
    else none
  | [] => none

structure CodeFence where
  mark : Char
  count : Nat
  deriving DecidableEq, Repr

/-- Reads an opening fence. No backtick follows a fence of backticks on its line. -/
def codeFence? (cs : List Char) : Option CodeFence :=
  match cs with
  | c :: _ =>
    let count := widthWhile (· == c) cs
    if (c = '`' ∨ c = '~') ∧ 3 ≤ count ∧ (c = '~' ∨ !(rawLine (cs.drop count)).contains '`') then
      some ⟨c, count⟩
    else none
  | [] => none

/-- The width of a line that closes a fence: at least as many marks, and only spaces behind them. At
the end of the document a fence is closed by nothing. -/
def CodeFence.closing? (fence : CodeFence) (cs : List Char) : Option Nat :=
  if cs = [] then some 0
  else
    let marks := widthWhile (· == fence.mark) cs
    let width := marks + widthWhile (· == ' ') (cs.drop marks)
    if fence.count ≤ marks ∧ atLineEnd (cs.drop width) then some width else none

/-- The marker of a list item: what kind of list it belongs to, its number, and the column in
which the content of the item starts, counted from the container. -/
structure ListMarker where
  delimiter : Char
  number : Nat
  indent : Nat
  deriving DecidableEq, Repr

def isBullet (c : Char) : Bool := c == '-' || c == '+' || c == '*'

/-- Reads the digits and the delimiter of an ordered item: its number, its delimiter, and the width
of both. There are at most nine digits. -/
def orderedMarker? (cs : List Char) : Option (Nat × Char × Nat) :=
  let digits := (cs.take 10).takeWhile Char.isDigit
  match cs.drop digits.length with
  | d :: _ =>
    if digits ≠ [] ∧ digits.length ≤ 9 ∧ (d = '.' ∨ d = ')') then
      some (digits.foldl (fun n c => n * 10 + (c.toNat - 48)) 0, d, digits.length + 1)
    else none
  | [] => none

/-- The marker at a cursor, with the cursor behind it, where `indent` columns were passed and
`width` characters make up the marker. Up to four blanks belong to the marker; five or more are one
blank and an indented code block, and an item that starts with an empty line counts one. -/
def finishMarker? (c : Cursor) (delimiter : Char) (number indent width : Nat) :
    Option (ListMarker × Cursor) :=
  let after := c.advance width
  let marker : ListMarker := ⟨delimiter, number, indent + width + 1⟩
  match after.skip? 1 with
  | none => if after.atLineEnd then some (marker, after) else none
  | some behind =>
    if behind.isBlank then some (marker, behind)
    else
      let (columns, inner) := behind.skipUpTo 4
      if columns < 4 then some ({ marker with indent := marker.indent + columns }, inner)
      else some (marker, behind)

/-- Reads the marker of a list item behind `indent` columns. A thematic break is no item. -/
def listMarker? (indent : Nat) (c : Cursor) : Option (ListMarker × Cursor) :=
  match c.rest with
  | d :: _ =>
    if isBullet d then
      if isThematicBreak c.rest then none else finishMarker? c d 0 indent 1
    else match orderedMarker? c.rest with
      | some (number, delimiter, width) => finishMarker? c delimiter number indent width
      | none => none
  | [] => none

/-- The width of the marker of an item that starts here, and whether its list has bullets or starts
at 1. -/
def itemStart? (cs : List Char) : Option (Nat × Bool) :=
  let followed (width : Nat) (first : Bool) : Option (Nat × Bool) :=
    let rest := cs.drop width
    if atLineEnd rest ∨ rest.head?.any isBlank then some (width, first) else none
  match cs with
  | c :: _ =>
    if isBullet c then followed 1 true
    else match orderedMarker? cs with
      | some (number, _, width) => followed width (number = 1)
      | none => none
  | [] => none

def startsItem (cs : List Char) : Bool := (itemStart? cs).isSome

/-- Whether an item that starts here may end a paragraph in its own container: it is not empty, and
its list has bullets or starts at 1. -/
def itemInterrupts (cs : List Char) : Bool :=
  match itemStart? cs with
  | some (width, first) => first && !isBlankRest (cs.drop width)
  | none => false

def quoteMarker? (c : Cursor) : Option Cursor :=
  match c.rest with
  | '>' :: _ => some ((c.advance 1).skip 1).2
  | _ => none

def alertNames : List String := ["note", "tip", "important", "warning", "caution"]

def alert? (cs : List Char) : Option Nat :=
  match cs with
  | '[' :: '!' :: inner =>
    let name := (inner.take 10).takeWhile (· ≠ ']')
    if alertNames.any (fun n => n.toList == asciiLower name) ∧
        (inner.drop name.length).head? = some ']' then
      (blankRest? (inner.drop (name.length + 1))).map (name.length + 3 + ·)
    else none
  | _ => none

/-- Reads the mark of a task: whether it is done, and the cursor behind the mark. White space has to
follow. -/
def taskMark? (c : Cursor) : Option (Bool × Cursor) :=
  let c := (c.skip 3).2
  match c.rest with
  | '[' :: x :: ']' :: b :: _ =>
    if isAsciiSpace b then
      if isLineSpace x then some (false, c.advance 3)
      else if x = 'x' ∨ x = 'X' then some (true, c.advance 3)
      else none
    else none
  | _ => none

end DiagramDoc.Markdown
