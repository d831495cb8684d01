import DiagramDoc.Markdown.CharacterName

/-! # Character references and escapes

A backslash in front of ASCII punctuation makes the character literal, and a reference such as a
name or number between an ampersand and a semicolon stands for a character. Both are read in text,
in link destinations and titles, and in info strings.
-/

namespace DiagramDoc.Markdown

def isAsciiPunctuation (c : Char) : Bool :=
  let n := c.toNat
  (0x21 ≤ n && n ≤ 0x2F) || (0x3A ≤ n && n ≤ 0x40) || (0x5B ≤ n && n ≤ 0x60) ||
    (0x7B ≤ n && n ≤ 0x7E)

def isLineSpace (c : Char) : Bool := c == ' ' || c == '\t' || c == '\x0b' || c == '\x0c'

def isAsciiSpace (c : Char) : Bool := isLineSpace c || c == '\n' || c == '\r'

def isHexDigit (c : Char) : Bool :=
  c.isDigit || ('a' ≤ c && c ≤ 'f') || ('A' ≤ c && c ≤ 'F')

/-- The character of a numeric reference. Zero stands for the replacement character; a number that
is no character is no reference. -/
def numberedCharacter? (n : Nat) : Option Char :=
  if n = 0 then some (Char.ofNat 0xFFFD)
  else if n.isValidChar then some (Char.ofNat n)
  else none

def takeNumber? (isDigit : Char → Bool) (most : Nat) (cs : List Char) : Option (List Char) :=
  let digits := (cs.take most).takeWhile isDigit
  if digits ≠ [] ∧ (cs.drop digits.length).head? = some ';' then some digits else none

/-- Reads a reference behind its ampersand: the characters it stands for, and its width with the
ampersand and the semicolon. -/
def takeReference? (cs : List Char) : Option (List Char × Nat) :=
  match cs with
  | '#' :: x :: rest =>
    if x = 'x' ∨ x = 'X' then do
      let digits ← takeNumber? isHexDigit 6 rest
      let c ← numberedCharacter? (hexNumber digits)
      some ([c], digits.length + 4)
    else do
      let digits ← takeNumber? Char.isDigit 7 (x :: rest)
      let c ← numberedCharacter? (digits.foldl (fun n c => n * 10 + (c.toNat - 48)) 0)
      some ([c], digits.length + 3)
  | _ =>
    let name := cs.takeWhile Char.isAlphanum
    if (cs.drop name.length).head? = some ';' then
      (namedCharacters? name).map fun value => (value, name.length + 2)
    else none

def unescapeFrom (inTable : Bool) (skip : Nat) : List Char → List Char
  | [] => []
  | c :: cs =>
    if skip ≠ 0 then unescapeFrom inTable (skip - 1) cs
    else match c, cs with
      | '\\', '\\' :: '|' :: _ =>
        if inTable then '|' :: unescapeFrom inTable 2 cs else '\\' :: unescapeFrom inTable 1 cs
      | '\\', d :: _ =>
        if isAsciiPunctuation d then d :: unescapeFrom inTable 1 cs
        else '\\' :: unescapeFrom inTable 0 cs
      | '&', _ =>
        match takeReference? cs with
        | some (value, width) => value ++ unescapeFrom inTable (width - 1) cs
        | none => '&' :: unescapeFrom inTable 0 cs
      | '\r', _ => unescapeFrom inTable 0 cs
      | _, _ => c :: unescapeFrom inTable 0 cs

/-- The text with its escapes and references replaced and its carriage returns left out. In a table
two backslashes in front of a bar are one escape. -/
def unescape (inTable : Bool) (cs : List Char) : List Char := unescapeFrom inTable 0 cs

end DiagramDoc.Markdown
