import DiagramDoc.Text.AsciiCase

/-! # Reserved words

Keywords of sequence diagrams that cannot be the name of a participant. The set keeps its words in
the order in which they were first given and in the spelling they were first given in; a word is in
the set if some spelling of it is.
-/

namespace DiagramDoc

open Text

structure ReservedWords where
  words : List String
  deriving DecidableEq, Repr

namespace ReservedWords

def empty : ReservedWords := ⟨[]⟩

def contains (r : ReservedWords) (word : String) : Bool :=
  r.words.any fun w => sameIgnoringCase w word

def add (r : ReservedWords) (word : String) : ReservedWords :=
  if r.contains word then r else ⟨r.words ++ [word]⟩

def addAll (r : ReservedWords) (extra : List String) : ReservedWords := extra.foldl add r

def size (r : ReservedWords) : Nat := r.words.length

def keywords : List String := [
  "break", "end", "loop", "alt", "else", "opt", "par", "and", "critical", "option", "section",
  "rect", "note", "activate", "deactivate"]

def standard : ReservedWords := empty.addAll keywords

end ReservedWords

end DiagramDoc
