import DiagramDoc.Markdown.Autolink
import DiagramDoc.Markdown.Emphasis
import DiagramDoc.Markdown.Link
import DiagramDoc.Markdown.RawHtml
import DiagramDoc.Markdown.Token

/-! # Inline content

The tokens of a passage are read from left to right. Code spans, autolinks and markup are finished
where they stand; brackets wait for the bracket that closes them, which decides whether they are a
link, an image or text; runs of emphasis marks are paired when the text around them is complete.
The content of a link is paired on its own. What a link, a code span or markup takes up is read off
the document itself; the tokens in that stretch are dropped.
-/

namespace DiagramDoc.Markdown

open Text

structure Spot where
  kind : TokenKind
  place : Place
  stop : Nat
  deriving Repr

namespace Spot

def text (s : Spot) : List Char := s.place.upTo s.stop

def after (s : Spot) : Place := s.place.advance (s.stop - s.place.offset)

end Spot

def locate (p : Place) : List Token → List Spot
  | [] => []
  | t :: ts =>
    let p := p.advance (t.start - p.offset)
    ⟨t.kind, p, t.stop⟩ :: locate p ts

/-- The tokens behind the offset `stop`. A token that stands on both sides of it is cut. -/
def dropSpots (stop : Nat) (spots : List Spot) : List Spot :=
  match spots.dropWhile (·.stop ≤ stop) with
  | [] => []
  | s :: rest => { s with place := s.place.advance (stop - s.place.offset) } :: rest

structure InlineContext where
  path : Path
  inTable : Bool
  definitions : Definitions

def InlineContext.skipAfter (x : InlineContext) (line : List Char) : Nat := x.path.width line

structure Bracket where
  isImage : Bool
  active : Bool
  place : Place
  text : List Char
  outer : List Piece
  deriving Repr

/-- The state of the reader: the pieces behind the nearest bracket, the last first, the brackets,
the nearest first, and how many bytes of targets may still be taken from definitions. -/
structure Reader where
  pieces : List Piece
  brackets : List Bracket
  budget : Nat
  deriving Repr

namespace Reader

def emit (r : Reader) (events : List Event) : Reader :=
  { r with pieces := .events events :: r.pieces }

def text (r : Reader) (cs : List Char) : Reader := r.emit [.text (String.ofList cs)]

def run (r : Reader) (run : Run) : Reader := { r with pieces := .run run :: r.pieces }

def openBracket (r : Reader) (isImage : Bool) (place : Place) (text : List Char) : Reader :=
  { r with pieces := [], brackets := ⟨isImage, true, place, text, r.pieces⟩ :: r.brackets }

def bracketText (b : Bracket) : Piece := .events [.text (String.ofList b.text)]

def dropBracket (r : Reader) : Reader :=
  match r.brackets with
  | [] => r
  | b :: rest => { r with pieces := r.pieces ++ bracketText b :: b.outer, brackets := rest }

/-- Closes the nearest bracket as a link or image. No bracket around a link may become a link. -/
def closeBracket (r : Reader) (b : Bracket) (rest : List Bracket) (target : Target) : Reader :=
  let url := String.ofList target.url
  let title := String.ofList target.title
  let content := r.pieces.reverse
  let events := chainEvents (content.any fun | .run _ => true | _ => false) content
  let (tag, tagEnd) := if b.isImage then (Tag.image url title, TagEnd.image)
    else (Tag.link url title, TagEnd.link)
  { r with
    pieces := .events ([.enter tag] ++ events ++ [.leave tagEnd]) :: b.outer
    brackets :=
      if b.isImage then rest
      else rest.map fun o => if o.isImage then o else { o with active := false } }

def finish (r : Reader) : List Piece :=
  r.brackets.foldl (fun pieces b => pieces ++ bracketText b :: b.outer) r.pieces

/-- The target of a label. Each use takes from the budget what the target needs; when nothing is
left of it, no label has a target. -/
def find? (r : Reader) (x : InlineContext) (label : List Char) : Option (Target × Reader) :=
  if r.budget = 0 then none
  else (x.definitions.find? label).map fun target =>
    (target, { r with budget := r.budget - byteCount target.url - byteCount target.title })

end Reader

/-! ### Code spans -/

/-- The text of a code span as it is read: line breaks are spaces, and what containers ask for
behind them is left out, `skip` characters of it here. In a table a backslash in front of a bar is
left out. -/
def codeFrom (x : InlineContext) (skip : Nat) : List Char → List Char
  | [] => []
  | c :: cs =>
    if skip ≠ 0 then codeFrom x (skip - 1) cs
    else if c = '\n' ∨ c = '\r' then ' ' :: codeFrom x (x.skipAfter cs) cs
    else if c = '\\' ∧ x.inTable ∧ cs.head? = some '|' then codeFrom x 0 cs
    else c :: codeFrom x 0 cs

/-- The text of a code span. A space at both ends is left out unless there is nothing else. -/
def codeText (x : InlineContext) (cs : List Char) : List Char :=
  let cs := codeFrom x 0 cs
  if cs.any (· ≠ ' ') && cs.head? == some ' ' && cs.getLast? == some ' ' then (cs.drop 1).dropLast
  else cs

/-- Handles a run of backticks `s`. A code span goes up to the next run of as many; an escaped
backtick stands in front of it as text. -/
def readBackticks (x : InlineContext) (r : Reader) (s : Spot) (count : Nat) (escaped : Bool)
    (rest : List Spot) : Reader × List Spot :=
  let needed := if escaped then count - 1 else count
  let closes (t : Spot) : Bool := match t.kind with
    | .backticks n _ => n = needed
    | _ => false
  match (if needed = 0 then [] else rest.dropWhile (!closes ·)) with
  | [] => (r.text s.text, rest)
  | closer :: after =>
    let code := Event.code (String.ofList (codeText x (s.after.upTo closer.place.offset)))
    (r.emit (if escaped then [.text "`", code] else [code]), after)

/-! ### Markup and autolinks -/

/-- Handles an angle bracket `s`. What it may open starts with the next token. -/
def readAngle (x : InlineContext) (r : Reader) (s : Spot) (rest : List Spot) :
    Reader × List Spot :=
  match rest with
  | [] => (r.text s.text, [])
  | next :: _ =>
    let start := next.place
    match takeAutolink? start.rest with
    | some address =>
      let url := String.ofList address
      (r.emit [.enter (.link url ""), .text url, .leave .link],
        dropSpots (start.offset + address.length + 1) rest)
    | none =>
      match takeMarkup? x.skipAfter start.rest with
      | some (markup, width) =>
        (r.emit [.inlineHtml (String.ofList ('<' :: markup))],
          dropSpots (start.offset + width) rest)
      | none => (r.text s.text, rest)

/-! ### Links -/

def skipSpace (x : InlineContext) (p : Place) : Place :=
  let p := p.advance (widthWhile isLineSpace p.rest)
  match lineEnd? p.rest with
  | none => p
  | some n =>
    let p := p.advance n
    let p := p.advance (x.skipAfter p.rest)
    p.advance (widthWhile isLineSpace p.rest)

/-- Reads a title on behind its opening character, the next `skip` characters aside: its text with
escapes and references replaced, and the place behind it. A line break goes on with the next of the
tokens `spots`. -/
def takeTitleFrom (x : InlineContext) (opening close : Char) (spots : List Spot)
    (seen : List Char) (offset skip : Nat) : List Char → Option (List Char × Place)
  | [] => none
  | c :: cs =>
    let go (seen : List Char) (skip : Nat) :=
      takeTitleFrom x opening close spots seen (offset + 1) skip cs
    if skip ≠ 0 then go seen (skip - 1)
    else if c = close then some (seen.reverse, ⟨offset + 1, cs⟩)
    else if c = opening then none
    else if c = '\n' ∨ c = '\r' then
      match spots.find? (offset + 1 < ·.stop) with
      | some next =>
        if offset < next.place.offset then go ('\n' :: seen) (next.place.offset - offset - 1)
        else go (c :: seen) 0
      | none => go (c :: seen) 0
    else match c, cs with
      | '&', _ =>
        match takeReference? cs with
        | some (value, width) => go (value.reverse ++ seen) (width - 1)
        | none => go (c :: seen) 0
      | '\\', '\\' :: '|' :: _ => if x.inTable then go ('|' :: seen) 2 else go ('\\' :: seen) 1
      | '\\', d :: _ => if isAsciiPunctuation d then go (d :: seen) 1 else go (c :: seen) 0
      | _, _ => go (c :: seen) 0

def takeTitle? (x : InlineContext) (spots : List Spot) (p : Place) :
    Option (List Char × Place) :=
  match p.rest with
  | c :: cs => do takeTitleFrom x c (← titleEnd? c) spots [] (p.offset + 1) 0 cs
  | [] => none

def linkParentheses : Nat := 32

/-- Reads destination and title in parentheses, behind the text of a link, and the offset behind
them. -/
def takeInlineTarget? (x : InlineContext) (spots : List Spot) (p : Place) :
    Option (Target × Nat) :=
  match p.rest with
  | '(' :: _ => do
    let p := skipSpace x (p.advance 1)
    let (url, width) ← takeUrl? linkParentheses p.rest
    let p := skipSpace x (p.advance width)
    let (title, p) := match takeTitle? x spots p with
      | some (title, p) => (title, skipSpace x p)
      | none => ([], p)
    if p.rest.head? = some ')' then some (⟨unescape x.inTable url, title⟩, p.offset + 1) else none
  | _ => none

/-- Reads a label at a place in front of the offset `stop`: its text and the offset behind it. -/
def takeLabelAt? (x : InlineContext) (p : Place) (text : List Char) : Option (List Char × Nat) :=
  match text with
  | '[' :: inner =>
    (takeLabel? (some ∘ x.skipAfter) inner).map fun (label, n) => (label, p.offset + n + 1)
  | _ => none

/-- The text of a link as its label: everything from its bracket to its closing bracket `s`. -/
def ownLabel? (x : InlineContext) (b : Bracket) (s : Spot) : Option (List Char) := do
  let (label, behind) ← takeLabelAt? x b.place (b.place.upTo s.stop)
  if behind = s.stop then some label else none

/-- Marks the first token behind the offset `stop` as a bracket that has closed a label, and gives
the tokens behind it, too. -/
def markLabelEnd? (stop : Nat) : List Spot → Option (List Spot × List Spot)
  | [] => none
  | s :: rest =>
    if s.stop ≤ stop then (markLabelEnd? stop rest).map fun (spots, after) => (s :: spots, after)
    else some ({ s with kind := .closeBracket false } :: rest, rest)

/-- Handles a closing bracket `s`: a target in parentheses follows, or a label in brackets, or the
text of the link is its label. A bracket that has closed a label without a definition is no end of
a link with its own text as the label. -/
def readCloseBracket (x : InlineContext) (r : Reader) (s : Spot) (fresh : Bool)
    (rest : List Spot) : Reader × List Spot :=
  let plain (rest : List Spot) : Reader × List Spot := (r.dropBracket.text s.text, rest)
  match r.brackets with
  | [] => (r.text s.text, rest)
  | b :: outer =>
    let own (after : List Spot) : Reader × List Spot :=
      match (if fresh then ownLabel? x b s else none).bind (r.find? x) with
      | some (target, r) => (r.closeBracket b outer target, after)
      | none => plain rest
    if !b.active then plain rest
    else match takeInlineTarget? x rest s.after with
      | some (target, stop) => (r.closeBracket b outer target, dropSpots stop rest)
      | none =>
        match rest with
        | [] => own []
        | next :: more =>
          if ['[', ']'].isPrefixOf next.place.rest then own (more.drop 1)
          else match takeLabelAt? x next.place next.place.rest with
            | none => own rest
            | some (label, stop) =>
              match markLabelEnd? (stop - 1) rest with
              | none => plain rest
              | some (marked, after) =>
                match r.find? x label with
                | some (target, r) => (r.closeBracket b outer target, after)
                | none => plain marked

/-! ### Passages -/

def readSpot (x : InlineContext) (r : Reader) (s : Spot) (rest : List Spot) :
    Reader × List Spot :=
  match s.kind with
  | .text => (r.text s.text, rest)
  | .characters value => (r.text value, rest)
  | .softBreak => (r.emit [.softBreak], rest)
  | .hardBreak false => (r.emit [.hardBreak], rest)
  | .hardBreak true => ({ r with pieces := .slashBreak :: r.pieces }, rest)
  | .run mark length canOpen canClose =>
    (r.run ⟨mark, length, length, canOpen, canClose, s.text.drop length⟩, rest)
  | .backticks count escaped => readBackticks x r s count escaped rest
  | .angle => readAngle x r s rest
  | .openImage => (r.openBracket true (s.place.advance 1) s.text, rest)
  | .openBracket => (r.openBracket false s.place s.text, rest)
  | .closeBracket fresh => readCloseBracket x r s fresh rest

def readSpots (x : InlineContext) : Nat → Reader → List Spot → Reader
  | 0, r, _ => r
  | _, r, [] => r
  | fuel + 1, r, s :: rest =>
    let (r, rest) := readSpot x r s rest
    readSpots x fuel r rest

/-- The events of a passage, and what is left of the budget for targets of definitions. Every step
takes a token. -/
def Passage.events (definitions : Definitions) (budget : Nat) (p : Passage) : List Event × Nat :=
  let x : InlineContext := ⟨p.path, p.inTable, definitions⟩
  let r := readSpots x p.tokens.length ⟨[], [], budget⟩ (locate p.source p.tokens)
  (chainEvents (p.tokens.any (·.kind.isOpen)) r.finish.reverse, r.budget)

end DiagramDoc.Markdown
