import DiagramDoc.Diagram.ReservedWords
import DiagramDoc.Diagram.Sequence.Line
import DiagramDoc.Text.Lines

/-! # Repair of sequence diagrams

Four passes over the source, each of which reads on at every line start: participants named after a
keyword are renamed where they are declared, then where they send or receive a message, then the
text of messages and of notes is quoted if it holds a character that ends the text too early. A
renamed participant gets an underscore at its end and keeps its letters as written, so a declaration
and its uses stay the same name.
-/

namespace DiagramDoc.Sequence

open Text

/-- The name that replaces `name`: with an underscore if it is reserved, else itself. -/
def rename (reserved : ReservedWords) (name : List Char) : List Char :=
  if reserved.contains (String.ofList name) then name ++ ['_'] else name

/-! ### What is found at a line start, and what is written for it -/

/-- A declaration, up to the end of its line. -/
def renameDeclared? (reserved : ReservedWords) (cs : List Char) :
    Option (List Char × List Char) :=
  (Declaration.parse? cs).map fun d =>
    let d := { d with displayed := restOfLine d.displayed }
    (d.text, { d with name := rename reserved d.name }.text)

/-- The sender in front of an arrow; the arrow is read and stays as it is. -/
def renameSender? (reserved : ReservedWords) (cs : List Char) : Option (List Char × List Char) :=
  (Opening.parse? cs).map fun o =>
    (o.indent ++ o.sender, o.indent ++ rename reserved o.sender)

/-- A message up to the colon behind its receiver. -/
def renameReceiver? (reserved : ReservedWords) (cs : List Char) :
    Option (List Char × List Char) :=
  (Message.parse? cs).map fun m =>
    (m.head, { m with receiver := rename reserved m.receiver }.head)

def isQuoted (cs : List Char) : Bool :=
  cs.length ≥ 2 && cs.head? == some '"' && cs.getLast? == some '"'

structure Quoting where
  triggers : List Char
  innerQuote : List Char

/-- Brackets end the text of a message; its inner quotes become single ones. -/
def Quoting.message : Quoting := ⟨['(', ')', '{', '}', '[', ']', '<', '>'], ['\'']⟩

/-- Brackets, entities and statement ends break the text of a note; its inner quotes are escaped. -/
def Quoting.note : Quoting :=
  ⟨['(', ')', '{', '}', '[', ']', '<', '>', '&', ';', '#'], ['\\', '"']⟩

/-- The body in quotes, if its text needs them: one blank, the quoted text, and the old end. -/
def Quoting.apply (q : Quoting) (body : List Char) : List Char :=
  let b := Body.ofChars body
  if isQuoted b.text || !b.text.any (q.triggers.contains ·) then body
  else [' ', '"'] ++ b.text.flatMap (fun c => if c = '"' then q.innerQuote else [c]) ++ ['"'] ++
    b.trail

/-- A body in quotes behind its head, up to the end of the line. -/
def Quoting.find (q : Quoting) (head body : List Char) : List Char × List Char :=
  (head ++ restOfLine body, head ++ q.apply (restOfLine body))

def quoteMessage? (cs : List Char) : Option (List Char × List Char) :=
  (Message.parse? cs).map fun m => Quoting.message.find m.head m.body

def quoteNote? (cs : List Char) : Option (List Char × List Char) :=
  (Note.parse? cs).map fun n => Quoting.note.find n.head n.body

/-! ### The passes -/

def renameDeclarations (reserved : ReservedWords) : List Char → List Char :=
  replaceAtLineStarts (renameDeclared? reserved)

def renameReferences (reserved : ReservedWords) (source : List Char) : List Char :=
  replaceAtLineStarts (renameReceiver? reserved)
    (replaceAtLineStarts (renameSender? reserved) source)

def repair (reserved : ReservedWords) (source : List Char) : List Char :=
  replaceAtLineStarts quoteNote? (replaceAtLineStarts quoteMessage?
    (renameReferences reserved (renameDeclarations reserved source)))

end DiagramDoc.Sequence
