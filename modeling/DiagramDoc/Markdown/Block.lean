import DiagramDoc.Markdown.Link
import DiagramDoc.Markdown.Table

/-! # Blocks

A document is a tree of blocks. The tree is built from the outside in: a builder holds the
containers that are still open, the innermost first, and each new block goes into the innermost
one. Empty lines count when the next block comes: they make lists loose, and they end an item that
has nothing in it.
-/

namespace DiagramDoc.Markdown

/-- A part of a document. The text of a paragraph, heading or cell is in tokens. -/
inductive Block where
  | paragraph (task : Option Bool) (text : Passage)
  | heading (level : Nat) (task : Option Bool) (text : Passage)
  | task (done : Bool)
  | code (info : Option (List Char)) (text : List Char)
  | html (text : List Char)
  | rule
  | table (alignments : List Alignment) (head : List Passage) (rows : List (List Passage))
  | quote (blocks : List Block)
  /-- A list, ordered if it has a first number. In a tight list paragraphs are not marked up. -/
  | list (start : Option Nat) (tight : Bool) (items : List (List Block))

inductive Frame where
  | quote (blocks : List Block)
  | list (delimiter : Char) (start : Nat) (tight : Bool) (items : List (List Block))
  | item (indent : Nat) (blocks : List Block)

def Frame.container : Frame → Container
  | .quote _ => .quote
  | .list .. => .list
  | .item indent _ => .item indent

structure Builder where
  done : List Block
  frames : List Frame
  afterBlank : Bool
  /-- Whether the last item opened with a line that was empty but for its marker. -/
  fresh : Bool
  definitions : Definitions

namespace Builder

def empty : Builder := ⟨[], [], false, false, []⟩

def path (b : Builder) : Path := (b.frames.map Frame.container).reverse

def add (b : Builder) (block : Block) : Builder :=
  match b.frames with
  | [] => { b with done := block :: b.done }
  | .quote blocks :: rest => { b with frames := .quote (block :: blocks) :: rest }
  | .item indent blocks :: rest => { b with frames := .item indent (block :: blocks) :: rest }
  | .list .. :: _ => b

def close (b : Builder) : Builder :=
  match b.frames with
  | [] => b
  | .quote blocks :: rest => { b with frames := rest }.add (.quote blocks.reverse)
  | .item _ blocks :: .list delimiter start tight items :: rest =>
    { b with frames := .list delimiter start tight (blocks.reverse :: items) :: rest }
  | .item _ blocks :: rest => { b with frames := rest }.add (.quote blocks.reverse)
  | .list delimiter start tight items :: rest =>
    { b with frames := rest, fresh := b.fresh && !tight }.add
      (.list (if delimiter = '.' ∨ delimiter = ')' then some start else none) tight items.reverse)

def closeTo (b : Builder) (n : Nat) : Builder := Nat.repeat close (b.frames.length - n) b

/-- Ends a fresh item behind which comes an empty line: it takes no second one. -/
def endFresh (b : Builder) : Builder :=
  let ended := match b.frames with
    | .item .. :: _ => if b.fresh && b.afterBlank then b.close else b
    | _ => b
  { ended with fresh := false }

def loosen (b : Builder) : Builder :=
  if b.afterBlank then
    match b.frames with
    | .item indent blocks :: .list delimiter start _ items :: rest =>
      { b with
        afterBlank := false
        frames := .item indent blocks :: .list delimiter start false items :: rest }
    | _ => { b with afterBlank := false }
  else b

/-- Prepares for a block that is no list item: a list that waits for an item ends, and an empty
line in front of the block makes the list around it loose. -/
def endList (b : Builder) : Builder :=
  let b := b.endFresh
  match b.frames with
  | .list .. :: _ => b.close.loosen
  | _ => b.loosen

def openItem (b : Builder) (marker : ListMarker) : Builder :=
  let item := Frame.item marker.indent []
  let b := b.endFresh
  let inNewList (b : Builder) : Builder :=
    { b with
      afterBlank := false
      frames := item :: .list marker.delimiter marker.number true [] :: b.frames }
  match b.frames with
  | .list delimiter start tight items :: rest =>
    if delimiter = marker.delimiter then
      { b with
        afterBlank := false
        frames := item :: .list delimiter start (tight && !b.afterBlank) items :: rest }
    else inNewList b.endList
  | _ => inNewList b.endList

def openQuote (b : Builder) : Builder :=
  let b := b.endList
  { b with frames := .quote [] :: b.frames }

/-- Handles an empty line. Directly in a block quote it says nothing about lists; an item that has
no content yet goes on with any line, so that the next block finds it. -/
def blankLine (b : Builder) : Builder :=
  match b.frames with
  | .quote _ :: _ => b
  | .item indent blocks :: rest =>
    { b with afterBlank := true, frames := .item (if b.fresh then 0 else indent) blocks :: rest }
  | _ => { b with afterBlank := true }

def define (b : Builder) (label : List Char) (target : Target) : Builder :=
  { b with definitions := (foldLabel label, target) :: b.definitions }

def blocks (b : Builder) : List Block := (b.closeTo 0).done.reverse

end Builder

end DiagramDoc.Markdown
