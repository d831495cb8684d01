import DiagramDoc.Deflate.Match

/-! # Lazy parsing

A text is cut into tokens from left to right. A copy that is not very long is held back for one
position: if the next position starts a longer one, the byte in front of that is written as a
literal, else the held copy is written. Each step records the tokens it writes and how much of the
text the window then holds.
-/

namespace DiagramDoc.Deflate

/-- A copy held back for one position, with the byte that is written if it is given up. -/
structure Held where
  byte : UInt8
  found : Found
  deriving DecidableEq, Repr

/-- What one step of the parser does: the tokens it writes, the copy it holds back, and the number
of bytes it moves on. -/
structure Move where
  tokens : List Token
  held : Option Held
  distance : Nat
  deriving DecidableEq, Repr

def Found.token (f : Found) : Token := .copy f.length f.distance

def Found.isLong (f : Found) : Bool := 128 ≤ f.length

/-- A copy of three bytes from far away costs more than literals, and a distance equal to the
position in the window is not used. -/
def Found.isPoor (f : Found) (pos : Nat) : Bool :=
  (f.length == 3 && 8192 ≤ f.distance) || pos % windowSize == f.distance

/-- The copy found at `pos` when `held` is held back, or distance and length 0. -/
def findAt (data : Array UInt8) (links : Array Nat) (pos window : Nat) (held : Option Held) :
    Found :=
  let limit := min maxLength (data.size - pos)
  let best := match held with
    | some h => h.found.length
    | none => 2
  let found := (Search.mk data links pos window limit).run best
  if found.isPoor pos then ⟨0, 0⟩ else found

/-- Chooses between the copy held back and the one found at this position, whose byte is `byte`. -/
def choose (byte : UInt8) (held : Option Held) (found : Found) : Move :=
  match held with
  | some h =>
    if h.found.length < found.length then
      if found.isLong then ⟨[.literal h.byte, found.token], none, found.length⟩
      else ⟨[.literal h.byte], some ⟨byte, found⟩, 1⟩
    else ⟨[h.found.token], none, h.found.length - 1⟩
  | none =>
    if found.distance = 0 then ⟨[.literal byte], none, 1⟩
    else if found.isLong then ⟨[found.token], none, found.length⟩
    else ⟨[], some ⟨byte, found⟩, 1⟩

structure Step where
  tokens : List Token
  window : Nat
  deriving DecidableEq, Repr

/-- The steps from `pos` on. Every step moves on, so as many as there are bytes left suffice. -/
def stepsFrom (data : Array UInt8) (links : Array Nat) :
    Nat → Nat → Nat → Option Held → List Step
  | 0, _, _, _ => []
  | fuel + 1, pos, window, held =>
    if data.size ≤ pos then []
    else
      let window := min (windowSize - min maxLength (data.size - pos)) window
      let move := choose (byteAt data pos) held (findAt data links pos window held)
      let window := min windowSize (window + move.distance)
      ⟨move.tokens, window⟩ :: stepsFrom data links fuel (pos + move.distance) window move.held

def steps (data : Array UInt8) : List Step :=
  stepsFrom data (links data) data.size 0 0 none

end DiagramDoc.Deflate
