import DiagramDoc.Deflate.Block
import DiagramDoc.Text.Bytes

/-! # The compressed stream

The steps of the parser are gathered into blocks, the blocks are written one behind the other, and
the bits are packed into bytes.
-/

namespace DiagramDoc.Deflate

/-- The tokens gathered for the next block, the last first, with the bytes they describe and the
room they take in a buffer of bytes: one for a literal, three for a copy, one for eight tokens. -/
structure Gathered where
  tokens : List Token
  width : Nat
  count : Nat
  room : Nat
  deriving Repr

namespace Gathered

def empty : Gathered := ⟨[], 0, 0, 1⟩

def add (g : Gathered) (token : Token) : Gathered :=
  let room := g.room + match token with
    | .literal _ => 1
    | .copy _ _ => 3
  ⟨token :: g.tokens, g.width + token.width, g.count + 1,
    if (g.count + 1) % 8 = 0 then room + 1 else room⟩

/-- Whether a block is due: the buffer is full, or much of the text is gathered and the tokens take
nearly as much room. -/
def isFull (g : Gathered) : Bool :=
  65528 < g.room || (31744 < g.width && g.width ≤ g.room * 115 / 128)

end Gathered

/-- The blocks of a text whose bytes from the block's first on are `data`. Whatever is left at the
end is the last block, even if it is empty. -/
def blocksFrom (data : List UInt8) (g : Gathered) (window : Nat) : List Step → List Block
  | [] => [⟨g.tokens.reverse, data.take g.width, window⟩]
  | step :: rest =>
    let g := step.tokens.foldl Gathered.add g
    if g.isFull then
      ⟨g.tokens.reverse, data.take g.width, step.window⟩ ::
        blocksFrom (data.drop g.width) .empty step.window rest
    else blocksFrom data g step.window rest

def blocks (data : List UInt8) : List Block :=
  blocksFrom data .empty 0 (steps data.toArray)

/-- The bits of blocks behind `used` bits; the last block is marked as final. -/
def blocksBits (used : Nat) : List Block → List Bool
  | [] => []
  | [b] => b.bits true used
  | b :: rest =>
    let bits := b.bits false used
    bits ++ blocksBits (used + bits.length) rest

def bitsNumber : List Bool → Nat
  | [] => 0
  | b :: rest => b.toNat + 2 * bitsNumber rest

def packBits : List Bool → List UInt8
  | a :: b :: c :: d :: e :: f :: g :: h :: rest =>
    UInt8.ofNat (bitsNumber [a, b, c, d, e, f, g, h]) :: packBits rest
  | [] => []
  | bits => [UInt8.ofNat (bitsNumber bits)]

def compress (data : List UInt8) : List UInt8 := packBits (blocksBits 0 (blocks data))

end DiagramDoc.Deflate
