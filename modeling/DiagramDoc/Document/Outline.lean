import DiagramDoc.Document.Slug
import DiagramDoc.Text.White

/-! # Outline of a document

While a document is written, its headings are collected. The content of an open heading is kept
apart until the heading closes, because the anchor, which stands in the opening tag, is made from
the heading's text. A slug that was used before gets the number of its earlier uses at its end.
-/

namespace DiagramDoc

open Text

structure TocEntry where
  level : Nat
  title : String
  id : String
  deriving DecidableEq, Repr

/-- A heading whose end has not been seen: its text so far, and its markup so far. -/
structure OpenHeading where
  level : Nat
  text : String
  html : String
  deriving DecidableEq, Repr

structure Heading where
  level : Nat
  id : String
  html : String
  deriving DecidableEq, Repr

structure Outline where
  extractTitle : Bool
  current : Option OpenHeading
  title : Option String
  toc : List TocEntry
  slugs : List String
  deriving DecidableEq, Repr

namespace Outline

def empty (extractTitle : Bool) : Outline := ⟨extractTitle, none, none, [], []⟩

def openHeading (o : Outline) (level : Nat) : Outline := { o with current := some ⟨level, "", ""⟩ }

def isOpen (o : Outline) : Bool := o.current.isSome

def push (o : Outline) (text html : String) : Outline :=
  { o with current := o.current.map fun h => ⟨h.level, h.text ++ text, h.html ++ html⟩ }

def anchor (o : Outline) (slug : String) : String :=
  match o.slugs.count slug with
  | 0 => slug
  | n => slug ++ "-" ++ toString n

/-- Closes the open heading, if there is one. The first heading of level 1 becomes the title where
the title is extracted; every other heading is an entry of the table of contents. -/
def close (o : Outline) : Option Heading × Outline :=
  match o.current with
  | none => (none, o)
  | some h =>
    let text := trimmed h.text
    let id := o.anchor (slug text)
    let closed := { o with current := none, slugs := o.slugs ++ [slug text] }
    (some ⟨h.level, id, trimmed h.html⟩,
      if o.extractTitle && h.level == 1 && o.title.isNone then { closed with title := some text }
      else { closed with toc := o.toc ++ [⟨h.level, text, id⟩] })

end Outline

end DiagramDoc
