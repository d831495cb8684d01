import DiagramDoc.Markdown.Reference

/-! # Places and lines

A document is one text, and reading goes through it from place to place: a place is what still
follows, with the number of characters in front of it. Offsets name stretches of the document,
and the text of a stretch is read off at its first place. A line ends with a line feed, a carriage
return or both, and with the document.
-/

namespace DiagramDoc.Markdown

structure Place where
  offset : Nat
  rest : List Char
  deriving DecidableEq, Repr

namespace Place

def start (document : List Char) : Place := ⟨0, document⟩

def advance (n : Nat) (p : Place) : Place := ⟨p.offset + n, p.rest.drop n⟩

def upTo (stop : Nat) (p : Place) : List Char := p.rest.take (stop - p.offset)

end Place

def widthWhile (p : Char → Bool) (cs : List Char) : Nat := (cs.takeWhile p).length

/-- The width of the line end that stands here; the end of the document has none. -/
def lineEnd? : List Char → Option Nat
  | [] => some 0
  | '\r' :: '\n' :: _ => some 2
  | '\r' :: _ => some 1
  | '\n' :: _ => some 1
  | _ => none

def atLineEnd (cs : List Char) : Bool := (lineEnd? cs).isSome

def blankRest? (cs : List Char) : Option Nat :=
  let blanks := widthWhile isLineSpace cs
  (lineEnd? (cs.drop blanks)).map (blanks + ·)

def isBlankRest (cs : List Char) : Bool := (blankRest? cs).isSome

def lineText (cs : List Char) : List Char := cs.takeWhile fun c => c ≠ '\n' && c ≠ '\r'

/-- The rest of a line of code or markup, with its end. Only a line feed ends such a line. -/
def rawLine (cs : List Char) : List Char := cs.take (widthWhile (· ≠ '\n') cs + 1)

def dropInnerReturn (line : List Char) : List Char :=
  match line.reverse with
  | last :: '\r' :: before => (last :: before).reverse
  | _ => line

end DiagramDoc.Markdown
