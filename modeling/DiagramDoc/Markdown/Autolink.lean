import DiagramDoc.Markdown.Reference
import DiagramDoc.Text.Lines

/-! # Autolinks

An address in angle brackets is a link: either a scheme and whatever follows its colon, or a mail
address.
-/

namespace DiagramDoc.Markdown

open Text

def inMailName (c : Char) : Bool := c.isAlphanum || ".!#$%&'*+/=?^_`\x7b|\x7d~-".toList.contains c

/-- Whether a text is the name of a mail server: labels of letters, digits and inner hyphens. -/
def isMailServer (cs : List Char) : Bool :=
  (splitAt (· == '.') cs).all fun label =>
    label ≠ [] && label.length ≤ 63 && label.all (fun c => c.isAlphanum || c == '-') &&
      label.head? != some '-' && label.getLast? != some '-'

def inScheme (c : Char) : Bool := c.isAlphanum || c == '+' || c == '.' || c == '-'

/-- Whether a text is an address with a scheme: two to thirty-two characters, a colon, and no
blanks, control characters or angle brackets. -/
def isUri (cs : List Char) : Bool :=
  let scheme := cs.takeWhile inScheme
  scheme.head?.any Char.isAlpha && 2 ≤ scheme.length && scheme.length ≤ 32 &&
    (cs.drop scheme.length).head? == some ':' && cs.all fun c => 0x20 < c.toNat && c ≠ '<'

def isMail (cs : List Char) : Bool :=
  let name := cs.takeWhile inMailName
  name ≠ [] &&
    match cs.drop name.length with
    | '@' :: server => isMailServer server
    | _ => false

def takeAutolink? (cs : List Char) : Option (List Char) :=
  let address := cs.takeWhile fun c => c ≠ '>' && 0x20 < c.toNat && c ≠ '<'
  if (cs.drop address.length).head? = some '>' && (isUri address || isMail address) then
    some address
  else none

end DiagramDoc.Markdown
