/-! # ASCII case

Keywords, names and reserved words are compared without regard to the case of ASCII letters; all
other letters have to agree exactly.
-/

namespace DiagramDoc.Text

def asciiLower (cs : List Char) : List Char := cs.map Char.toLower

def sameIgnoringCase (a b : String) : Bool := asciiLower a.toList == asciiLower b.toList

theorem sameIgnoringCase_iff {a b : String} :
    sameIgnoringCase a b = true ↔ asciiLower a.toList = asciiLower b.toList := by
  simp [sameIgnoringCase]

def dropKeyword (word : List Char) (cs : List Char) : Option (List Char) :=
  if asciiLower (cs.take word.length) = word then some (cs.drop word.length) else none

end DiagramDoc.Text
