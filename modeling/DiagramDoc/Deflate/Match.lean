import DiagramDoc.Deflate.Token

/-! # Search for copies

Three equal bytes are looked for through chains of earlier positions with the same hash. The search
follows a chain for a bounded number of rounds and keeps the longest common run it has seen.
Whatever the chains hold, a run is measured on the bytes themselves, so a copy that is found is a
copy.
-/

namespace DiagramDoc.Deflate

def windowSize : Nat := 32768

def maxLength : Nat := 258

def byteAt (data : Array UInt8) (i : Nat) : UInt8 := data.getD i 0

def hashAt (data : Array UInt8) (i : Nat) : Nat :=
  (((byteAt data i).toNat <<< 10) ^^^ ((byteAt data (i + 1)).toNat <<< 5) ^^^
    (byteAt data (i + 2)).toNat) &&& 0x7fff

/-- The chains while they are built: the last position with each hash, and the links so far. -/
structure Chains where
  latest : Array Nat
  links : Array Nat

def Chains.enter (data : Array UInt8) (chains : Chains) (i : Nat) : Chains :=
  let h := hashAt data i
  ⟨chains.latest.set! h i, chains.links.push (chains.latest.getD h 0)⟩

/-- For each position with three bytes, the last earlier position with the same hash. A zero ends
the chain, so position 0 is never found. -/
def links (data : Array UInt8) : Array Nat :=
  ((List.range (data.size - 2)).foldl (Chains.enter data) ⟨.replicate 0x8000 0, #[]⟩).links

structure Found where
  distance : Nat
  length : Nat
  deriving DecidableEq, Repr

def samePair (data : Array UInt8) (p q : Nat) : Bool :=
  byteAt data p == byteAt data q && byteAt data (p + 1) == byteAt data (q + 1)

def commonLength (data : Array UInt8) (p q : Nat) : Nat → Nat
  | 0 => 0
  | limit + 1 =>
    if byteAt data p = byteAt data q then commonLength data (p + 1) (q + 1) limit + 1 else 0

inductive Probe where
  | finished
  | candidate (p : Nat)
  | further (p : Nat)

/-- A search for a copy at `pos`, no more than `limit` bytes long and no farther back than
`window`. -/
structure Search where
  data : Array UInt8
  links : Array Nat
  pos : Nat
  window : Nat
  limit : Nat

namespace Search

/-- Follows the chain from `p` for some steps, to a position whose bytes at the end of a copy of
length `best + 1` are the ones needed. -/
def probe (s : Search) (best : Nat) : Nat → Nat → Probe
  | 0, p => .further p
  | steps + 1, p =>
    let q := s.links.getD p 0
    if q = 0 ∨ s.window < s.pos - q then .finished
    else if samePair s.data (q + best - 1) (s.pos + best - 1) then .candidate q
    else probe s best steps q

def rounds (s : Search) : Nat → Nat → Found → Found
  | 0, _, best => best
  | n + 1, p, best =>
    match s.probe best.length 3 p with
    | .finished => best
    | .further p => s.rounds n p best
    | .candidate p =>
      if samePair s.data p s.pos then
        let length := commonLength s.data p s.pos s.limit
        if best.length < length then
          if s.limit ≤ length then ⟨s.pos - p, length⟩
          else s.rounds n p ⟨s.pos - p, length⟩
        else s.rounds n p best
      else s.rounds n p best

/-- The best copy longer than `best`, or distance 0. A long copy at hand shortens the search. -/
def run (s : Search) (best : Nat) : Found :=
  if s.limit ≤ best then ⟨0, best⟩
  else s.rounds (if best < 32 then 256 else 64) s.pos ⟨0, best⟩

end Search

end DiagramDoc.Deflate
