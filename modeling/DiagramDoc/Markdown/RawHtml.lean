import DiagramDoc.Markdown.Tag
import DiagramDoc.Text.AsciiCase

/-! # Raw HTML

Markup that a document holds as it is. Inside a paragraph it is a whole tag, comment, instruction,
declaration or character data section; on lines of its own it is a block, which one of seven
openings starts and which ends with its closing text or with a blank line.
-/

namespace DiagramDoc.Markdown

open Text

/-- The width of `cs` up to and with the first occurrence of `closing`, with `width` characters in
front of `cs`. -/
def widthThrough? (closing : List Char) (width : Nat) : List Char → Option Nat
  | [] => none
  | c :: rest =>
    if closing.isPrefixOf (c :: rest) then some (width + closing.length)
    else widthThrough? closing (width + 1) rest

/-- The width of a comment behind its exclamation mark. The hyphens that open it may close it. -/
def comment? (cs : List Char) : Option Nat :=
  match cs with
  | '-' :: '-' :: rest =>
    let hyphens := widthWhile (· == '-') rest
    let inner := rest.drop hyphens
    if inner.head? = some '>' then some (hyphens + 3)
    else widthThrough? "-->".toList (hyphens + 2) inner
  | _ => none

/-- The width of a section of character data behind its exclamation mark. The first brackets in it
have to close it. -/
def characterData? (cs : List Char) : Option Nat :=
  if "[CDATA[".toList.isPrefixOf cs then
    let inner := cs.drop 7
    let before := widthWhile (· ≠ ']') inner
    let brackets := widthWhile (· == ']') (inner.drop before)
    if brackets ≠ 0 ∧ (inner.drop (before + brackets)).head? = some '>' then
      some (before + brackets + 8)
    else none
  else none

def declaration? (cs : List Char) : Option Nat :=
  if cs.head?.any Char.isAlpha then widthThrough? ['>'] 0 cs else none

/-- Reads markup in a paragraph behind its opening angle bracket: its text, and the number of
characters that it takes up. In a tag, but not elsewhere, `skipAfter` counts the characters behind
a line break that belong to containers. -/
def takeMarkup? (skipAfter : List Char → Nat) (cs : List Char) : Option (List Char × Nat) :=
  let asItIs (width : Nat) : List Char × Nat := (cs.take width, width)
  match cs with
  | '!' :: rest =>
    ((comment? rest).or ((characterData? rest).or (declaration? rest))).map fun n => asItIs (n + 1)
  | '?' :: rest => (widthThrough? "?>".toList 1 rest).map asItIs
  | _ => takeTag? skipAfter cs

/-! ### Blocks -/

inductive HtmlEnd where
  | closing (text : List Char)
  | blankLine
  deriving DecidableEq, Repr

def verbatimElements : List String := ["pre", "style", "script", "textarea"]

def htmlClosing? (cs : List Char) : Option (List Char) :=
  let verbatim := verbatimElements.find? fun name =>
    match dropKeyword name.toList cs with
    | some rest => rest.head?.all fun c => isAsciiSpace c || c == '>'
    | none => false
  match verbatim with
  | some name => some ("</".toList ++ name.toList ++ ['>'])
  | none =>
    if "!--".toList.isPrefixOf cs then some "-->".toList
    else if ['?'].isPrefixOf cs then some "?>".toList
    else if "![CDATA[".toList.isPrefixOf cs then some "]]>".toList
    else match cs with
      | '!' :: c :: _ => if c.isAlpha then some ['>'] else none
      | _ => none

def blockElements : List String := [
  "address", "article", "aside", "base", "basefont", "blockquote", "body", "caption", "center",
  "col", "colgroup", "dd", "details", "dialog", "dir", "div", "dl", "dt", "fieldset", "figcaption",
  "figure", "footer", "form", "frame", "frameset", "h1", "h2", "h3", "h4", "h5", "h6", "head",
  "header", "hr", "html", "iframe", "legend", "li", "link", "main", "menu", "menuitem", "nav",
  "noframes", "ol", "optgroup", "option", "p", "param", "search", "section", "summary", "table",
  "tbody", "td", "tfoot", "th", "thead", "title", "tr", "track", "ul"]

def opensBlockElement (cs : List Char) : Bool :=
  let cs := if cs.head? = some '/' then cs.drop 1 else cs
  let name := cs.takeWhile Char.isAlphanum
  blockElements.any (fun e => e.toList == asciiLower name) &&
    match cs.drop name.length with
    | [] => true
    | '/' :: '>' :: _ => true
    | c :: _ => c == ' ' || c == '\t' || c == '\n' || c == '\r' || c == '>'

def htmlInterruption? (cs : List Char) : Option HtmlEnd :=
  match cs with
  | '<' :: cs =>
    match htmlClosing? cs with
    | some text => some (.closing text)
    | none => if opensBlockElement cs then some .blankLine else none
  | _ => none

/-- How the block of markup ends that a line opens. A line with nothing but one tag opens a block,
too, but does not end a paragraph. -/
def htmlStart? (cs : List Char) : Option HtmlEnd :=
  match htmlInterruption? cs with
  | some e => some e
  | none =>
    match cs with
    | '<' :: cs =>
      let line := lineText cs
      match takeTag? (fun _ => 0) line with
      | some (_, width) => if (line.drop width).all isLineSpace then some .blankLine else none
      | none => none
    | _ => none

end DiagramDoc.Markdown
