import DiagramDoc.Markdown.Block
import DiagramDoc.Markdown.RawHtml

/-! # Leaves

Blocks that hold no others and are no paragraphs: headings, code and markup. Each reader takes the
containers around the block and the place where the block starts, and gives the block with the
place behind it. Readers that go over lines take at most as many as their fuel says.
-/

namespace DiagramDoc.Markdown

open Text

def endTokens (stop : Nat) : List Token → List Token
  | [] => []
  | [t] => [{ t with stop }]
  | t :: ts => t :: endTokens stop ts

/-- Reads a heading at its number signs. The last token goes up to the end of the heading's text,
which leaves out the closing number signs, but not all blanks. -/
def readHeading (gfm : Bool) (path : Path) (level : Nat) (p : Place) : Block × Place :=
  let p := p.advance level
  let start := p.advance (widthWhile isLineSpace p.rest)
  let line := takeLine gfm false 0 start
  let width := atxTextWidth (start.upTo line.next.offset)
  let tokens := if width = 0 then [] else endTokens (start.offset + width) line.tokens
  (.heading level none ⟨path, false, tokens, start, line.next.offset⟩, line.next)

/-! ### Code -/

def codeLine (indentation line : List Char) : List Char := indentation ++ dropInnerReturn line

def fencedLines (path : Path) (fence : CodeFence) (indent : Nat) :
    Nat → Place → List Char × Place
  | 0, p => ([], p)
  | fuel + 1, p =>
    match path.enter? p with
    | none => ([], p)
    | some c =>
      let inner := (c.skip indent).2
      let (missing, marks) := inner.skip (4 - indent)
      match (if missing = 0 then none else fence.closing? marks.rest) with
      | some width =>
        let ending := marks.place.advance width
        ([], ending.advance ((blankRest? ending.rest).getD 0))
      | none =>
        let line := rawLine inner.rest
        let (text, next) := fencedLines path fence indent fuel (inner.place.advance line.length)
        (codeLine inner.indentation line ++ text, next)

def readFenced (path : Path) (fuel : Nat) (indent : Nat) (fence : CodeFence) (p : Place) :
    Block × Place :=
  let p := p.advance fence.count
  let line := rawLine p.rest
  let info := dropEndWhile isAsciiSpace (line.dropWhile isLineSpace)
  let (text, next) := fencedLines path fence indent fuel (p.advance line.length)
  (.code (some (unescape false info)) text, next)

structure IndentedCode where
  /-- The lines up to the last one that is not blank, and the blank lines behind it, each the last
  first. -/
  lines : List (List Char)
  pending : List (List Char)
  afterBlank : Bool
  next : Place

/-- The text of indented code. Blank lines at its end do not belong to it. -/
def IndentedCode.text (code : IndentedCode) : List Char := code.lines.reverse.flatten

def indentedLines (path : Path) : Nat → IndentedCode → Cursor → IndentedCode
  | 0, code, _ => code
  | fuel + 1, code, c =>
    let line := rawLine c.rest
    let next := c.place.advance line.length
    let text := codeLine c.indentation line
    let code : IndentedCode :=
      if code.afterBlank then { code with pending := text :: code.pending, next }
      else ⟨text :: (code.pending ++ code.lines), [], false, next⟩
    match path.enter? next with
    | none => code
    | some c =>
      let (missing, inner) := c.skip 4
      if (missing ≠ 0 ∧ !inner.atLineEnd) ∨ inner.rest = [] then code
      else indentedLines path fuel { code with afterBlank := inner.isBlank } inner

def readIndented (path : Path) (fuel : Nat) (c : Cursor) : IndentedCode :=
  indentedLines path fuel ⟨[], [], false, c.place⟩ c

/-! ### Markup -/

def occursIn (part : List Char) : List Char → Bool
  | [] => part.isEmpty
  | c :: cs => part.isPrefixOf (c :: cs) || occursIn part cs

def readMarkup (path : Path) (ending : HtmlEnd) :
    Nat → List Char → Place → List Char × Place
  | 0, _, p => ([], p)
  | fuel + 1, indentation, p =>
    let line := rawLine p.rest
    let next := p.advance line.length
    let text := codeLine indentation line
    match path.enter? next with
    | none => (text, next)
    | some c =>
      let ended := match ending with
        | .closing closing => c.rest.isEmpty || occursIn closing line
        | .blankLine => c.isBlank
      if ended then (text, next)
      else
        let (more, next) := readMarkup path ending fuel c.indentation c.place
        (text ++ more, next)

end DiagramDoc.Markdown
