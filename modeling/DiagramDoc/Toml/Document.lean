import DiagramDoc.Toml.Scalar
import DiagramDoc.Toml.Value

/-! # TOML documents

A document is a series of lines with headers and keys. Arrays and inline tables may go over several
lines and hold comments. A document that is not valid has no value; in particular a key or table
that is given twice makes it invalid, and so does one that is nested too deeply.
-/

namespace DiagramDoc.Toml

open Text

def dropBlanks (cs : List Char) : List Char := cs.dropWhile isTomlBlank

def dropComment? (cs : List Char) : Option (List Char) :=
  match dropBlanks cs with
  | '#' :: rest =>
    let after := rest.dropWhile fun c => !isControl c
    match after with
    | [] => some []
    | _ => if (dropNewline? after).isSome then some after else none
  | rest => some rest

def dropFill? : Nat → List Char → Option (List Char)
  | 0, cs => some cs
  | fuel + 1, cs =>
    match dropComment? cs with
    | none => none
    | some rest =>
      match dropNewline? rest with
      | some rest => dropFill? fuel rest
      | none => some rest

def inBareKey (c : Char) : Bool := c.isAlphanum || c == '_' || c == '-'

def takeKeyPart? (cs : List Char) : Option (String × List Char) :=
  match cs with
  | '"' :: rest => takeLine? '"' (rest.length + 1) [] rest
  | '\'' :: rest => takeLine? '\'' (rest.length + 1) [] rest
  | _ =>
    match cs.takeWhile inBareKey with
    | [] => none
    | key => some (String.ofList key, cs.dropWhile inBareKey)

/-- The number of arrays and inline tables that may be nested, and of the parts of a key. -/
def maxDepth : Nat := 80

/-- Reads at most `fuel` parts of a key: all but the last, the last, and what follows behind
blanks. -/
def takeKeyParts? : Nat → List Char → Option (List String × String × List Char)
  | 0, _ => none
  | fuel + 1, cs =>
    match takeKeyPart? (dropBlanks cs) with
    | none => none
    | some (part, rest) =>
      match dropBlanks rest with
      | '.' :: rest =>
        (takeKeyParts? fuel rest).map fun (path, key, rest) => (part :: path, key, rest)
      | rest => some ([], part, rest)

/-- Reads a key: its parts but the last, the last, and what follows behind blanks. -/
def takeKey? (cs : List Char) : Option (List String × String × List Char) :=
  takeKeyParts? maxDepth cs

def inWord (c : Char) : Bool := c.isAlphanum || "+-_.:".toList.contains c

def takeWord? (cs : List Char) : Option (Value × List Char) :=
  let word := cs.takeWhile inWord
  let rest := cs.drop word.length
  let dated := match dropDate? word, rest with
    | some [], ' ' :: d :: more =>
      if d.isDigit then some (word ++ ' ' :: (d :: more).takeWhile inWord,
        (d :: more).dropWhile inWord)
      else none
    | _, _ => none
  match dated with
  | some (word, rest) => if isTime word then some (.time, rest) else none
  | none =>
    if word = "true".toList then some (.boolean true, rest)
    else if word = "false".toList then some (.boolean false, rest)
    else if isTime word then some (.time, rest)
    else if isSpecialNumber word then some (.number true, rest)
    else match integer? word, decimal? word with
      | some n, _ => some (.number (Toml.isStorable n), rest)
      | none, some d => some (.number d.isFinite, rest)
      | none, none => none

mutual

/-- Reads a value inside `depth` arrays and inline tables, with at most `fuel` parts nested or in a
row. -/
def takeValue? (depth : Nat) : Nat → List Char → Option (Value × List Char)
  | 0, _ => none
  | fuel + 1, cs =>
    match cs with
    | '[' :: rest =>
      if depth < maxDepth then
        (takeItems? (depth + 1) fuel [] rest).map fun (items, rest) => (.array items, rest)
      else none
    | '\x7b' :: rest =>
      if depth < maxDepth then
        (takeMembers? (depth + 1) fuel [] rest).map fun (entries, rest) =>
          (.table (entriesValue entries), rest)
      else none
    | '"' :: _ => (takeString? cs).map fun (s, rest) => (.string s, rest)
    | '\'' :: _ => (takeString? cs).map fun (s, rest) => (.string s, rest)
    | _ => takeWord? cs

def takeItems? (depth : Nat) : Nat → List Value → List Char → Option (List Value × List Char)
  | 0, _, _ => none
  | fuel + 1, seen, cs =>
    match dropFill? cs.length cs with
    | none => none
    | some (']' :: rest) => some (seen.reverse, rest)
    | some cs =>
      match takeValue? depth fuel cs with
      | none => none
      | some (v, rest) =>
        match dropFill? rest.length rest with
        | some (',' :: rest) => takeItems? depth fuel (v :: seen) rest
        | some (']' :: rest) => some ((v :: seen).reverse, rest)
        | _ => none

/-- Reads the keys of an inline table up to its closing brace. Comments and line breaks may stand
around each equals sign, too. -/
def takeMembers? (depth : Nat) : Nat → Entries → List Char → Option (Entries × List Char)
  | 0, _, _ => none
  | fuel + 1, entries, cs =>
    match dropFill? cs.length cs with
    | none => none
    | some ('\x7d' :: rest) => some (entries, rest)
    | some cs => do
      let (path, key, rest) ← takeKey? cs
      let rest ← dropFill? rest.length rest
      let rest ← dropChar? '=' rest
      let rest ← dropFill? rest.length rest
      let (v, rest) ← takeValue? depth fuel rest
      let entries ← entries.assign? path key v
      match dropFill? rest.length rest with
      | some (',' :: rest) => takeMembers? depth fuel entries rest
      | some ('\x7d' :: rest) => some (entries, rest)
      | _ => none

end

/-- A document that is being read: its tables so far, and the path of the open one. -/
structure Reading where
  entries : Entries
  path : List String

def takeHeader? (double : Bool) (r : Reading) (cs : List Char) : Option (Reading × List Char) := do
  let (path, key, rest) ← takeKey? cs
  let rest ← dropChar? ']' rest
  let rest ← if double then dropChar? ']' rest else some rest
  let entries ← if double then r.entries.openMember? path key else r.entries.openTable? path key
  some (⟨entries, path ++ [key]⟩, rest)

def takePair? (r : Reading) (cs : List Char) : Option (Reading × List Char) := do
  let (path, key, rest) ← takeKey? cs
  let rest ← dropChar? '=' rest
  let (v, rest) ← takeValue? 0 (rest.length + 1) (dropBlanks rest)
  let entries ← r.entries.within? .implied (Entries.assign? path key v) r.path
  some (⟨entries, r.path⟩, rest)

def takeExpression? (r : Reading) (cs : List Char) : Option (Reading × List Char) :=
  match cs with
  | '[' :: '[' :: rest => takeHeader? true r rest
  | '[' :: rest => takeHeader? false r rest
  | _ => takePair? r cs

def readLines? : Nat → Reading → List Char → Option Entries
  | 0, _, _ => none
  | fuel + 1, r, cs =>
    let start := dropBlanks cs
    let said := match start with
      | [] => some (r, start)
      | c :: _ =>
        if c = '#' ∨ c = '\n' ∨ c = '\r' then some (r, start) else takeExpression? r start
    match said with
    | none => none
    | some (r, rest) =>
      match dropComment? rest with
      | none => none
      | some [] => some r.entries
      | some rest =>
        match dropNewline? rest with
        | some rest => readLines? fuel r rest
        | none => none

/-- The table that a document describes, if the document is valid. A byte order mark in front of it
is left out. -/
def parse? (document : String) : Option (List (String × Value)) :=
  let cs := document.toList
  let cs := if cs.head? = some '\ufeff' then cs.drop 1 else cs
  (readLines? (cs.length + 1) ⟨[], []⟩ cs).map entriesValue

end DiagramDoc.Toml
