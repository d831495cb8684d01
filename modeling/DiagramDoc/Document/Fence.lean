import DiagramDoc.Text.Lines

/-! # Fenced blocks

A fenced code block carries an info string: the language, then attributes `key=value`. A handler
may put markup of its own in the place of a block; a block that it declines stays code.
-/

namespace DiagramDoc

open Text

abbrev Attributes := List (String × String)

namespace Attributes

/-- `attrs` with `key` set to `value`; a key that is there already keeps its place. -/
def set (key value : String) : Attributes → Attributes
  | [] => [(key, value)]
  | (k, v) :: rest => if k = key then (k, value) :: rest else (k, v) :: set key value rest

def get? (attrs : Attributes) (key : String) : Option String := attrs.lookup key

end Attributes

def isQuote (c : Char) : Bool := c == '"' || c == '\''

/-- The key and value of a word with an equals sign in it; quotes around the value are dropped. -/
def attribute? (word : List Char) : Option (String × String) :=
  match word.dropWhile (· ≠ '=') with
  | _ :: value =>
    some (String.ofList (word.takeWhile (· ≠ '=')),
      String.ofList (dropEndWhile isQuote (value.dropWhile isQuote)))
  | [] => none

structure InfoString where
  language : String
  attrs : Attributes
  deriving DecidableEq, Repr

/-- Reads an info string. Words without an equals sign behind the language mean nothing. -/
def InfoString.parse (info : String) : InfoString :=
  match words info.toList with
  | [] => ⟨"", []⟩
  | language :: rest =>
    ⟨String.ofList language,
      (rest.filterMap attribute?).foldl (fun attrs (key, value) => attrs.set key value) []⟩

structure Fence where
  language : String
  attrs : Attributes
  source : String
  index : Nat
  deriving DecidableEq, Repr

structure FenceHandler (σ : Type) where
  answer : σ → Fence → Option String × σ

end DiagramDoc
