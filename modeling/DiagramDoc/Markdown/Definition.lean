import DiagramDoc.Markdown.Interruption
import DiagramDoc.Markdown.Link

/-! # Link definitions

A definition says what a label stands for: the label in brackets, a colon, the destination and
maybe a title, each of which may stand on a line of its own. It ends its last line. If what looks
like a title does not, the definition ends with the line of its destination.
-/

namespace DiagramDoc.Markdown

def definitionParentheses : Nat := 1

/-- The place behind white space with at most one line break in it, and whether there was one. The
line behind the break must not end a paragraph. -/
def skipSeparator? (gfm : Bool) (path : Path) (p : Place) : Option (Place × Bool) :=
  let p := p.advance (widthWhile isLineSpace p.rest)
  match lineEnd? p.rest with
  | none => some (p, false)
  | some n =>
    let line := nextLine path (p.advance n)
    let inner := line.cursor.place
    if line.interrupts gfm path ∨ (line.mayStart ∧ (setextUnderline? inner.rest).isSome) then none
    else
      let behind := inner.advance (widthWhile isLineSpace inner.rest)
      if atLineEnd behind.rest then none else some (behind, true)

/-- Reads a title on behind its opening character: its width with the closing one. A title holds no
blank line; `fresh` tells that its line has only blanks so far. -/
def titleWidth? (close : Char) (fresh : Bool) (width : Nat) : List Char → Option Nat
  | [] => none
  | '\\' :: c :: rest =>
    if c = '\n' then titleWidth? close true (width + 2) rest
    else titleWidth? close false (width + 2) rest
  | c :: rest =>
    if c = '\n' then if fresh then none else titleWidth? close true (width + 1) rest
    else if fresh && isAsciiSpace c then titleWidth? close true (width + 1) rest
    else if c = close then some (width + 1)
    else titleWidth? close false (width + 1) rest

def takeDefinitionTitle? (cs : List Char) : Option (List Char × Nat) :=
  match cs with
  | c :: rest => do
    let close ← titleEnd? c
    let width ← titleWidth? close false 1 rest
    some (rest.take (width - 2), width)
  | [] => none

structure LinkDefinition where
  label : List Char
  target : Target
  next : Place

def takeDefinitionTarget? (gfm : Bool) (path : Path) (p : Place) : Option (Target × Place) := do
  let (p, _) ← skipSeparator? gfm path p
  let (url, width) ← takeUrl? definitionParentheses p.rest
  let behind := p.advance width
  let target (title : List Char) : Target := ⟨unescape false url, unescape false title⟩
  if width = 0 then none
  else match skipSeparator? gfm path behind with
    | none => some (target [], behind)
    | some (place, broken) =>
      if place.offset = behind.offset then none
      else
        let titled : Option (Target × Place) := do
          let (title, width) ← takeDefinitionTitle? place.rest
          let ending := place.advance width
          if isBlankRest ending.rest then some (target title, ending) else none
        titled.or (if broken then some (target [], behind) else none)

/-- Reads a definition at the start of a paragraph. Its label goes over a line break unless the next
line would end a paragraph. -/
def takeDefinition? (gfm : Bool) (path : Path) (p : Place) : Option LinkDefinition :=
  let skipAfter (line : List Char) : Option Nat :=
    let (entered, c) := path.enter (.start line)
    if interrupts gfm path entered c.place then none else some c.place.offset
  match p.rest with
  | '[' :: rest => do
    let (label, width) ← takeLabel? skipAfter rest
    let colon := p.advance (width + 1)
    if colon.rest.head? = some ':' then
      let (target, next) ← takeDefinitionTarget? gfm path (colon.advance 1)
      some ⟨label, target, next⟩
    else none
  | _ => none

end DiagramDoc.Markdown
