import DiagramDoc.Markdown.Marker

/-! # Containers

Block quotes, lists and their items hold other blocks. Each line of a block starts with what its
containers ask for: a quote wants its marker, an item wants its indentation unless the line ends
there, and a list wants nothing. The containers around a block, from the outside in, are its path.
-/

namespace DiagramDoc.Markdown

inductive Container where
  | quote
  | list
  | item (indent : Nat)
  deriving DecidableEq, Repr

def Container.enter? (c : Cursor) : Container → Option Cursor
  | .quote => quoteMarker? (c.skip 3).2
  | .list => some c
  | .item indent =>
    let (missing, inner) := c.skip indent
    if missing = 0 ∨ inner.atLineEnd then some inner else none

abbrev Path := List Container

namespace Path

/-- Enters the containers of a path as far as the line goes along with them; how many these are
comes first. -/
def enterFrom (c : Cursor) : Path → Nat × Cursor
  | [] => (0, c)
  | container :: path =>
    match container.enter? c with
    | some inner =>
      let (n, last) := enterFrom inner path
      (n + 1, last)
    | none => (0, c)

def enter (path : Path) (p : Place) : Nat × Cursor := path.enterFrom (.ofPlace p)

def enter? (path : Path) (p : Place) : Option Cursor :=
  let (n, c) := path.enter p
  if n = path.length then some c else none

def width (path : Path) (line : List Char) : Nat := (path.enter (.start line)).2.place.offset

end Path

end DiagramDoc.Markdown
