import DiagramDoc.Markdown.Place

/-! # Columns

The start of a line is read column by column: a tab reaches to the next multiple of four columns,
counted from the last tab, and a part of a tab may belong to a container while the rest of it is
indentation. A cursor is a place in a line that knows how many columns of a tab are left.
-/

namespace DiagramDoc.Markdown

structure Cursor where
  place : Place
  /-- The offset from which tabs are counted: the start of the line or the end of the last tab. -/
  tabEnd : Nat
  spare : Nat
  blanks : Nat
  deriving DecidableEq, Repr

namespace Cursor

def ofPlace (p : Place) : Cursor := ⟨p, p.offset, 0, 0⟩

def rest (c : Cursor) : List Char := c.place.rest

/-- Takes up to `n` columns of blanks from `cs`; the number of columns that were missing comes
first. -/
def skipFrom (n offset tabEnd blanks : Nat) (cs : List Char) : Nat × Cursor :=
  match n, cs with
  | 0, _ => (0, ⟨⟨offset, cs⟩, tabEnd, 0, blanks⟩)
  | n + 1, ' ' :: rest => skipFrom n (offset + 1) tabEnd (blanks + 1) rest
  | n + 1, '\t' :: rest =>
    let width := 4 - (offset - tabEnd) % 4
    if n + 1 < width then
      (0, ⟨⟨offset + 1, rest⟩, offset + 1, width - (n + 1), blanks + 1⟩)
    else skipFrom (n + 1 - width) (offset + 1) (offset + 1) (blanks + 1) rest
  | n + 1, _ => (n + 1, ⟨⟨offset, cs⟩, tabEnd, 0, blanks⟩)
  termination_by structural cs

/-- Takes up to `n` columns of blanks; the number of columns that were missing comes first. -/
def skip (n : Nat) (c : Cursor) : Nat × Cursor :=
  if n ≤ c.spare then (0, { c with spare := c.spare - n })
  else skipFrom (n - c.spare) c.place.offset c.tabEnd c.blanks c.rest

def skipUpTo (n : Nat) (c : Cursor) : Nat × Cursor :=
  let (missing, c) := c.skip n
  (n - missing, c)

def skip? (n : Nat) (c : Cursor) : Option Cursor :=
  match c.skip n with
  | (0, c) => some c
  | _ => none

def skipAll (c : Cursor) : Cursor :=
  let n := widthWhile (fun d => d = ' ' || d = '\t') c.rest
  { c with place := c.place.advance n, spare := 0, blanks := c.blanks + n }

/-- The cursor behind the next `n` characters, the last of them no blank. The columns that are left
of a tab stay. -/
def advance (n : Nat) (c : Cursor) : Cursor := { c with place := c.place.advance n, blanks := 0 }

def atLineEnd (c : Cursor) : Bool := Markdown.atLineEnd c.rest

def isBlank (c : Cursor) : Bool := isBlankRest c.rest

def indentation (c : Cursor) : List Char := .replicate c.spare ' '

end Cursor

end DiagramDoc.Markdown
