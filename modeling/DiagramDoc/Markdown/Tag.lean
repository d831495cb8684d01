import DiagramDoc.Markdown.Place

/-! # Tags

A tag of markup is read character by character: its name, its attributes with their values, and
the bracket that closes it. Inside a paragraph a tag may go over several lines; what the
containers ask for at the start of a line does not belong to it.
-/

namespace DiagramDoc.Markdown

inductive TagState where
  | start
  | name
  | gap (spaced : Bool)
  | attribute
  | afterAttribute
  | beforeValue
  | bareValue
  | quotedValue (quote : Char)
  | slash
  | closing
  | closingName
  | closingGap
  | complete
  deriving DecidableEq, Repr

def startsAttribute (c : Char) : Bool := c.isAlpha || c == '_' || c == ':'

def inAttribute (c : Char) : Bool := c.isAlphanum || c == '_' || c == ':' || c == '.' || c == '-'

def inBareValue (c : Char) : Bool := !"'\" =><`\n\r".toList.contains c

namespace TagState

/-- What follows the name of the tag or an attribute: white space, a closing bracket with or without
a slash, or, behind white space, an attribute. -/
def nextInGap (spaced : Bool) (c : Char) : Option TagState :=
  if isAsciiSpace c then some (.gap true)
  else if c = '>' then some .complete
  else if c = '/' then some .slash
  else if spaced && startsAttribute c then some .attribute
  else none

def next (c : Char) : TagState → Option TagState
  | .start => if c = '/' then some .closing else if c.isAlpha then some .name else none
  | .name => if c.isAlphanum || c == '-' then some .name else nextInGap false c
  | .gap spaced => nextInGap spaced c
  | .attribute =>
    if inAttribute c then some .attribute
    else if c = '=' then some .beforeValue
    else if isAsciiSpace c then some .afterAttribute
    else nextInGap false c
  | .afterAttribute =>
    if c = '=' then some .beforeValue
    else if isAsciiSpace c then some .afterAttribute
    else nextInGap true c
  | .beforeValue =>
    if isAsciiSpace c then some .beforeValue
    else if c = '"' || c = '\'' then some (.quotedValue c)
    else if inBareValue c then some .bareValue
    else none
  | .bareValue => if inBareValue c then some .bareValue else nextInGap false c
  | .quotedValue quote => if c = quote then some (.gap false) else some (.quotedValue quote)
  | .slash => if c = '>' then some .complete else none
  | .closing => if c.isAlpha then some .closingName else none
  | .closingName =>
    if c.isAlphanum || c == '-' then some .closingName
    else if c = '>' then some .complete
    else if isLineSpace c then some .closingGap
    else none
  | .closingGap =>
    if c = '>' then some .complete else if isLineSpace c then some .closingGap else none
  | .complete => none

end TagState

/-- Reads a tag on from a state, with `kept` as its characters so far, the last first. The next
`skip` characters belong to containers; `skipAfter` counts them behind a line break. The tag comes
with the number of characters that have been read. -/
def takeTagFrom (skipAfter : List Char → Nat) (state : TagState) (kept : List Char)
    (skip width : Nat) : List Char → Option (List Char × Nat)
  | [] => none
  | c :: cs =>
    if skip ≠ 0 then takeTagFrom skipAfter state kept (skip - 1) (width + 1) cs
    else match state.next c with
      | none => none
      | some .complete => some ((c :: kept).reverse, width + 1)
      | some state =>
        let ends := c == '\n' || (c == '\r' && cs.head? != some '\n')
        takeTagFrom skipAfter state (c :: kept) (if ends then skipAfter cs else 0) (width + 1) cs

/-- Reads a tag behind its opening angle bracket: its characters without what belongs to containers,
and the number of characters that it takes up. -/
def takeTag? (skipAfter : List Char → Nat) (cs : List Char) : Option (List Char × Nat) :=
  takeTagFrom skipAfter .start [] 0 0 cs

end DiagramDoc.Markdown
