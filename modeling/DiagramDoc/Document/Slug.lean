import DiagramDoc.Text.Lines
import DiagramDoc.Unicode.Alphanumeric
import DiagramDoc.Unicode.Lowercase

/-! # Slugs

The anchor of a heading is made from its text: the words between white space, hyphens and
underscores, without anything but letters and numbers, in lower case, and joined by hyphens.
Letters of every script stay.
-/

namespace DiagramDoc

open Text Unicode

def isSlugSeparator (c : Char) : Bool := isSpace c || c == '-' || c == '_'

def slugWord (word : List Char) : List Char := (word.filter isAlphanumeric).flatMap lowercase

def slugWords (cs : List Char) : List (List Char) :=
  ((splitAt isSlugSeparator cs).map slugWord).filter (· ≠ [])

def slug (text : String) : String := String.ofList (join ['-'] (slugWords text.toList))

end DiagramDoc
