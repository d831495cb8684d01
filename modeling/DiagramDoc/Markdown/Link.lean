import DiagramDoc.Markdown.Place
import DiagramDoc.Text.White
import DiagramDoc.Unicode.CaseFold

/-! # Parts of links

Links and link definitions are made of labels, destinations and titles. A label is compared with
its white space collapsed and its letters folded; a destination stands in angle brackets or has
balanced parentheses and no blanks; a title stands in quotes or parentheses.
-/

namespace DiagramDoc.Markdown

open Text Unicode

structure Target where
  url : List Char
  title : List Char
  deriving DecidableEq, Repr

def byteCount (cs : List Char) : Nat := cs.foldl (fun n c => n + c.utf8Size) 0

/-- The link definitions of a document, in their order: folded labels and their targets. -/
abbrev Definitions := List (List Char × Target)

def foldLabel (label : List Char) : List Char :=
  (dropEndWhile isAsciiSpace (label.dropWhile isAsciiSpace)).flatMap caseFold

def Definitions.find? (defs : Definitions) (label : List Char) : Option Target :=
  defs.lookup (foldLabel label)

/-! ### Labels -/

structure LabelScan where
  text : List Char
  /-- What counts for the longest label: white space, escapes, and bytes beyond ASCII. -/
  size : Nat
  blank : Bool
  gap : Nat
  breaks : Nat
  skip : Nat
  width : Nat

namespace LabelScan

def start : LabelScan := ⟨[], 0, true, 0, 0, 0, 0⟩

def endGap (s : LabelScan) : LabelScan :=
  if s.gap = 0 then s
  else { s with text := ' ' :: s.text, size := s.size + s.gap, gap := 0, breaks := 0 }

def pass (s : LabelScan) : LabelScan := { s with width := s.width + 1 }

def add (cs : List Char) (size : Nat) (s : LabelScan) : LabelScan :=
  { s with text := cs ++ s.text, size := s.size + size, blank := false }

end LabelScan

def labelLimit : Nat := 1000

def labelSize (c : Char) : Nat := if c.toNat < 0x80 then 0 else c.utf8Size

/-- Reads a label on behind its opening bracket: its text and its width with the closing bracket.
Behind a line break `skipAfter` counts the characters that belong to containers, or tells that the
label cannot go on there. A label holds no bracket that is not escaped, something other than white
space, and no blank line. -/
def takeLabelFrom (skipAfter : List Char → Option Nat) (s : LabelScan) :
    List Char → Option (List Char × Nat)
  | [] => none
  | c :: cs =>
    if s.skip ≠ 0 then takeLabelFrom skipAfter { s.pass with skip := s.skip - 1 } cs
    else if isAsciiSpace c then
      let s := { s.pass with gap := s.gap + 1 }
      if c = '\n' ∨ (c = '\r' ∧ cs.head? ≠ some '\n') then
        match skipAfter cs with
        | some n =>
          if s.breaks = 0 then
            takeLabelFrom skipAfter { s with breaks := 1, gap := s.gap + n, skip := n } cs
          else none
        | none => none
      else takeLabelFrom skipAfter s cs
    else
      let s := s.endGap.pass
      if labelLimit ≤ s.size then none
      else match c, cs with
        | '[', _ => none
        | ']', _ => if s.blank then none else some (s.text.reverse, s.width)
        | '\\', d :: _ =>
          takeLabelFrom skipAfter { s.add [d, c] (1 + max 1 (labelSize d)) with skip := 1 } cs
        | _, _ => takeLabelFrom skipAfter (s.add [c] (labelSize c)) cs

/-- Reads a label behind its opening bracket: its text and its width with the closing bracket. -/
def takeLabel? (skipAfter : List Char → Option Nat) (cs : List Char) : Option (List Char × Nat) :=
  takeLabelFrom skipAfter .start cs

/-! ### Destinations -/

def takePointyUrl (seen : List Char) : List Char → Option (List Char)
  | [] => none
  | '\\' :: c :: rest =>
    if isAsciiPunctuation c then takePointyUrl (c :: '\\' :: seen) rest
    else if c = '\n' ∨ c = '\r' then none
    else takePointyUrl (c :: '\\' :: seen) rest
  | c :: rest =>
    if c = '\n' ∨ c = '\r' ∨ c = '<' then none
    else if c = '>' then some seen.reverse
    else takePointyUrl (c :: seen) rest

/-- Reads a destination without angle brackets, inside `depth` parentheses; no more than `most` may
be open in front of another one. -/
def takePlainUrl (most : Nat) (seen : List Char) (depth : Nat) : List Char → Option (List Char)
  | [] => if depth = 0 then some seen.reverse else none
  | '\\' :: c :: rest =>
    if isAsciiPunctuation c then takePlainUrl most (c :: '\\' :: seen) depth rest
    else if c.toNat ≤ 0x20 then if depth = 0 then some ('\\' :: seen).reverse else none
    else takePlainUrl most (c :: '\\' :: seen) depth rest
  | c :: rest =>
    if c.toNat ≤ 0x20 then if depth = 0 then some seen.reverse else none
    else if c = '(' then
      if most < depth then none else takePlainUrl most (c :: seen) (depth + 1) rest
    else if c = ')' then
      match depth with
      | 0 => some seen.reverse
      | d + 1 => takePlainUrl most (c :: seen) d rest
    else takePlainUrl most (c :: seen) depth rest

def takeUrl? (most : Nat) (cs : List Char) : Option (List Char × Nat) :=
  match cs with
  | '<' :: rest => (takePointyUrl [] rest).map fun url => (url, url.length + 2)
  | _ => (takePlainUrl most [] 0 cs).map fun url => (url, url.length)

/-! ### Titles -/

def titleEnd? (c : Char) : Option Char :=
  if c = '"' ∨ c = '\'' then some c else if c = '(' then some ')' else none

end DiagramDoc.Markdown
