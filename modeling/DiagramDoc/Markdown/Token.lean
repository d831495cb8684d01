import DiagramDoc.Markdown.Container
import DiagramDoc.Unicode.Punctuation

/-! # Tokens

The text of a paragraph, heading or cell is cut into tokens line by line, before it is known what
links are defined. A token is a stretch of the document; between two tokens stand only backslashes
that escape what follows, and blanks at the ends of lines. What brackets, backticks and runs of
marks come to is decided when the whole text is there.
-/

namespace DiagramDoc.Markdown

open Text Unicode

inductive TokenKind where
  | text
  | characters (value : List Char)
  | softBreak
  | hardBreak (slash : Bool)
  | run (mark : Char) (length : Nat) (canOpen canClose : Bool)
  | backticks (count : Nat) (escaped : Bool)
  | angle
  | openImage
  | openBracket
  /-- A closing bracket. It is fresh unless it has closed a label without a definition. -/
  | closeBracket (fresh : Bool)
  deriving DecidableEq, Repr

def TokenKind.isOpen : TokenKind → Bool
  | .text | .characters _ | .softBreak | .hardBreak _ => false
  | _ => true

structure Token where
  kind : TokenKind
  start : Nat
  stop : Nat
  deriving DecidableEq, Repr

/-! ### Runs -/

/-- Whether a run between `before` and `after` can open emphasis. The end of a text counts as white
space. Underscores and single tildes do not open inside a word, except that a single tilde does
behind an escaped one. -/
def canOpen (mark : Char) (length : Nat) (before after : Option Char) : Bool :=
  match after with
  | none => false
  | some a =>
    if isSpace a then false
    else match before with
      | none => true
      | some b =>
        (mark = '*' && !isPunctuation a) || (mark = '~' && 1 < length) ||
          (mark = '~' && b = '~' && !isPunctuation a) || isSpace b || isPunctuation b

def canClose (mark : Char) (length : Nat) (before after : Option Char) : Bool :=
  match before with
  | none => false
  | some b =>
    if isSpace b then false
    else match after with
      | none => true
      | some a =>
        ((mark = '*' || (mark = '~' && 1 < length)) && !isPunctuation b) ||
          (mark = '~' && b = '~') || isSpace a || isPunctuation a

/-! ### Lines -/

structure LineScan where
  offset : Nat
  textStart : Nat
  before : Option Char
  blanks : Nat
  skip : Nat
  tokens : List Token

namespace LineScan

def pass (c : Char) (s : LineScan) : LineScan :=
  { s with
    offset := s.offset + 1, before := some c
    blanks := if isLineSpace c then s.blanks + 1 else 0 }

def endText (stop : Nat) (s : LineScan) : LineScan :=
  if s.textStart < stop then { s with tokens := ⟨.text, s.textStart, stop⟩ :: s.tokens } else s

def token (kind : TokenKind) (width : Nat) (s : LineScan) : LineScan :=
  let s := s.endText s.offset
  { s with
    textStart := s.offset + width, skip := width - 1
    tokens := ⟨kind, s.offset, s.offset + width⟩ :: s.tokens }

def escape (n : Nat) (s : LineScan) : LineScan :=
  let s := s.endText s.offset
  { s with textStart := s.offset + n, skip := n }

/-- Handles a backslash in front of `cs`. An escaped backtick is a token with the backticks behind
it; in a cell two backslashes in front of a bar are one escape. -/
def backslash (inCell : Bool) (cs : List Char) (s : LineScan) : LineScan :=
  match cs with
  | '`' :: rest =>
    let count := widthWhile (· == '`') rest + 1
    let s := s.escape 1
    { s with
      textStart := s.offset + 1 + count, skip := count
      tokens := ⟨.backticks count true, s.offset + 1, s.offset + 1 + count⟩ :: s.tokens }
  | '\\' :: '|' :: _ => s.escape (if inCell then 2 else 1)
  | c :: _ => if isAsciiPunctuation c then s.escape 1 else s
  | [] => s

/-- Handles the character `c` in front of `cs`. The bar that ends a cell is like an end of the text
for the runs in it. -/
def step (gfm inCell : Bool) (c : Char) (cs : List Char) (s : LineScan) : LineScan :=
  match c with
  | '\\' => s.backslash inCell cs
  | '`' =>
    let count := widthWhile (· == '`') cs + 1
    s.token (.backticks count false) count
  | '<' => if cs.head? = some '\\' then s else s.token .angle 1
  | '!' => if cs.head? = some '[' then s.token .openImage 2 else s
  | '[' => s.token .openBracket 1
  | ']' => s.token (.closeBracket true) 1
  | '&' =>
    match takeReference? cs with
    | some (value, width) => s.token (.characters value) width
    | none => s
  | _ =>
    if c = '*' ∨ c = '_' ∨ (c = '~' ∧ gfm) then
      let length := widthWhile (· == c) cs + 1
      let after := (cs.drop (length - 1)).head?.filter fun a => !(inCell && a = '|')
      let opens := canOpen c length s.before after
      let closes := canClose c length s.before after
      if (opens || closes) && (c ≠ '~' || length ≤ 2) then s.token (.run c length opens closes) length
      else { s with skip := length - 1 }
    else s

end LineScan

/-- The tokens of a line or cell, the place behind it, and the token of its line break, which is one
only if the text goes on behind it. -/
structure LineTokens where
  tokens : List Token
  next : Place
  lineBreak : Option Token

def takeLineFrom (gfm inCell : Bool) (s : LineScan) : List Char → LineTokens
  | [] => ⟨(s.endText (s.offset - s.blanks)).tokens.reverse, ⟨s.offset, []⟩, none⟩
  | c :: cs =>
    if s.skip ≠ 0 then takeLineFrom gfm inCell { s.pass c with skip := s.skip - 1 } cs
    else
      let textEnd := s.offset - s.blanks
      let finish (textEnd width : Nat) (lineBreak : Option Token) : LineTokens :=
        ⟨(s.endText textEnd).tokens.reverse, Place.advance width ⟨s.offset, c :: cs⟩, lineBreak⟩
      if inCell && (c = '|' || atLineEnd (c :: cs)) then finish textEnd 0 none
      else match lineEnd? (c :: cs) with
        | some n =>
          finish textEnd n
            (some (if 2 ≤ s.blanks then ⟨.hardBreak false, textEnd, s.offset + n⟩
              else ⟨.softBreak, s.offset, s.offset + n⟩))
        | none =>
          match (if c = '\\' && !inCell then lineEnd? cs else none) with
          | some n =>
            if cs.drop n = [] then takeLineFrom gfm inCell (s.pass c) cs
            else finish s.offset (n + 1) (some ⟨.hardBreak true, s.offset, s.offset + 1 + n⟩)
          | none => takeLineFrom gfm inCell ((s.step gfm inCell c cs).pass c) cs

def takeLine (gfm inCell : Bool) (blanks : Nat) (p : Place) : LineTokens :=
  takeLineFrom gfm inCell ⟨p.offset, p.offset, none, blanks, 0, []⟩ p.rest

/-- The text of a paragraph, heading or cell: its tokens, and the stretch of the document between
the place `start` and the offset `stop` that its links and markup may take up. -/
structure Passage where
  path : Path
  inTable : Bool
  tokens : List Token
  start : Place
  stop : Nat

def Passage.source (p : Passage) : Place := ⟨p.start.offset, p.start.upTo p.stop⟩

end DiagramDoc.Markdown
