import DiagramDoc.Text.AsciiCase
import DiagramDoc.Text.White
import DiagramDoc.Unicode.Word

/-! # Lines of a sequence diagram

Four kinds of line matter for repair: the declaration of a participant under an alias, a line that
opens with a sender and an arrow, a whole message, and a note. Each is a record of the pieces of
the line, cut so that the pieces in order are the line again; `parse?` finds the pieces. It is given
a source from a line start on, and then the last piece is all that is left of the source. All runs
(blanks, names) are as long as possible, and no shorter run would let a line parse that does not
parse with the longest, because what follows a run never starts with a character of the run.
-/

namespace DiagramDoc.Sequence

open Text Unicode

/-- The text of every arrow, each before the arrows that it starts with. -/
def arrows : List (List Char) :=
  ["<<-->>", "<<->>", "-->>", "->>", "-->", "->", "--x", "--)", "-x", "-)"].map String.toList

def takeArrow? (cs : List Char) : Option (List Char × List Char) :=
  (arrows.find? (·.isPrefixOf cs)).map fun arrow => (arrow, cs.drop arrow.length)

def takeName? (cs : List Char) : Option (List Char × List Char) :=
  match cs.takeWhile isWord with
  | [] => none
  | name => some (name, cs.dropWhile isWord)

def takeSign : List Char → List Char × List Char
  | '+' :: cs => (['+'], cs)
  | '-' :: cs => (['-'], cs)
  | cs => ([], cs)

def takeBlanks (cs : List Char) : List Char × List Char := cs.span isBlank

def takeGap? (cs : List Char) : Option (List Char × List Char) :=
  match cs.takeWhile isBlank with
  | [] => none
  | gap => some (gap, cs.dropWhile isBlank)

def dropAs? : List Char → Option (List Char)
  | a :: s :: cs => if a.toLower = 'a' ∧ (s.toLower = 's' ∨ s = 'ſ') then some cs else none
  | _ => none

def dropOneOf? (keywords : List String) (cs : List Char) : Option (List Char) :=
  keywords.findSome? fun k => dropKeyword k.toList cs

/-- `participant NAME as ALIAS`: the text up to the name, the name, and the rest of the line. -/
structure Declaration where
  head : List Char
  name : List Char
  displayed : List Char
  deriving DecidableEq, Repr

namespace Declaration

def text (d : Declaration) : List Char := d.head ++ d.name ++ d.displayed

/-- Reads a declaration. The keyword is `participant` or `actor`; without an alias the line is no
declaration. -/
def parse? (line : List Char) : Option Declaration := do
  let (_, cs) := takeBlanks line
  let cs ← dropOneOf? ["participant", "actor"] cs
  let (_, cs) ← takeGap? cs
  let (name, rest) ← takeName? cs
  let (_, cs') ← takeGap? rest
  let cs' ← dropAs? cs'
  let _ ← takeGap? cs'
  some ⟨line.take (line.length - cs.length), name, rest⟩

end Declaration

/-- A line that opens with a name and an arrow: the indentation, the name, and the rest. -/
structure Opening where
  indent : List Char
  sender : List Char
  rest : List Char
  deriving DecidableEq, Repr

namespace Opening

def text (o : Opening) : List Char := o.indent ++ o.sender ++ o.rest

def parse? (line : List Char) : Option Opening := do
  let (indent, cs) := takeBlanks line
  let (sender, rest) ← takeName? cs
  let _ ← takeArrow? (takeBlanks rest).2
  some ⟨indent, sender, rest⟩

end Opening

/-- `SENDER ARROW RECEIVER: BODY`: the opening with its arrow and activation sign, the receiver,
the colon with the blanks before it, and everything behind the colon. -/
structure Message where
  indent : List Char
  sender : List Char
  link : List Char
  receiver : List Char
  colon : List Char
  body : List Char
  deriving DecidableEq, Repr

namespace Message

def head (m : Message) : List Char := m.indent ++ m.sender ++ m.link ++ m.receiver ++ m.colon

def text (m : Message) : List Char := m.head ++ m.body

def parse? (line : List Char) : Option Message := do
  let (indent, cs) := takeBlanks line
  let (sender, cs) ← takeName? cs
  let (gap, cs) := takeBlanks cs
  let (arrow, cs) ← takeArrow? cs
  let (next, cs) := takeBlanks cs
  let (sign, cs) := takeSign cs
  let (lead, cs) := takeBlanks cs
  let (receiver, cs) ← takeName? cs
  let (space, cs) := takeBlanks cs
  match cs with
  | ':' :: body =>
    some ⟨indent, sender, gap ++ arrow ++ next ++ sign ++ lead, receiver, space ++ [':'], body⟩
  | _ => none

end Message

/-- `Note over A, B: BODY`: what stands before the body, colon included, and the body. -/
structure Note where
  head : List Char
  body : List Char
  deriving DecidableEq, Repr

namespace Note

def text (n : Note) : List Char := n.head ++ n.body

def isPlace (c : Char) : Bool := isWord c || c == ',' || c == ' ' || c == '\t'

/-- Reads a note. Between the position and the colon stand names, commas and blanks, at least two
characters and a blank first. -/
def parse? (line : List Char) : Option Note := do
  let (_, cs) := takeBlanks line
  let cs ← dropOneOf? ["note"] cs
  let (_, cs) ← takeGap? cs
  let cs ← dropOneOf? ["left", "right", "over"] cs
  let place := cs.takeWhile isPlace
  match cs.dropWhile isPlace with
  | ':' :: body =>
    if place.length ≥ 2 ∧ place.head?.any isBlank then
      some ⟨line.take (line.length - body.length), body⟩
    else none
  | _ => none

end Note

/-- The body of a message or note, cut into its leading blanks, its text, and the trailing blanks
and carriage returns. -/
structure Body where
  lead : List Char
  text : List Char
  trail : List Char
  deriving DecidableEq, Repr

namespace Body

def isTrail (c : Char) : Bool := isBlank c || c == '\r'

def ofChars (cs : List Char) : Body :=
  let inner := cs.dropWhile isBlank
  ⟨cs.takeWhile isBlank, dropEndWhile isTrail inner, takeEndWhile isTrail inner⟩

end Body

end DiagramDoc.Sequence
