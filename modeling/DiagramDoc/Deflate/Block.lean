import DiagramDoc.Deflate.Huffman
import DiagramDoc.Deflate.Parse

/-! # Blocks of bits

Tokens are written in blocks. A block opens with a bit that tells whether it is the last one and
with two bits for its type: bytes as they are, a fixed code, or a code of its own that stands in
front of the tokens. Bits fill each byte from the lowest up; numbers are written from their lowest
bit, code words from their highest.
-/

namespace DiagramDoc.Deflate

def numberBits (width n : Nat) : List Bool := (List.range width).map n.testBit

structure Code where
  symbols : Array (List Bool)
  distances : Array (List Bool)

def Code.ofLengths (symbols distances : List Nat) : Code :=
  ⟨(codeWords symbols).toArray, (codeWords distances).toArray⟩

def fixedLengths : List Nat :=
  .replicate 144 8 ++ .replicate 112 9 ++ .replicate 24 7 ++ .replicate 8 8

def Code.fixed : Code := .ofLengths fixedLengths (.replicate 32 5)

def extraBits (ranges : List ValueRange) (value : Nat) : List Bool :=
  let range := ranges.getD (rangeIndex ranges value) ⟨0, 0⟩
  numberBits range.extra (value - range.base)

def Code.tokenBits (code : Code) : Token → List Bool
  | .literal byte => code.symbols.getD byte.toNat []
  | .copy length distance =>
    code.symbols.getD (Token.symbol (.copy length distance)) [] ++
      extraBits lengthRanges length ++
      code.distances.getD (rangeIndex distanceRanges distance) [] ++
      extraBits distanceRanges distance

def Code.bodyBits (code : Code) (tokens : List Token) : List Bool :=
  tokens.flatMap code.tokenBits ++ code.symbols.getD endOfBlock []

/-! ### A code in front of its block -/

inductive LengthItem where
  | plain (length : Nat)
  | again (times : Nat)
  | zeros (times : Nat)
  | manyZeros (times : Nat)
  deriving DecidableEq, Repr

namespace LengthItem

def symbol : LengthItem → Nat
  | plain length => length
  | again _ => 16
  | zeros _ => 17
  | manyZeros _ => 18

def extra : LengthItem → List Bool
  | plain _ => []
  | again times => numberBits 2 (times - 3)
  | zeros times => numberBits 3 (times - 3)
  | manyZeros times => numberBits 7 (times - 11)

end LengthItem

def zeroItems (times : Nat) : List LengthItem :=
  if times < 3 then .replicate times (.plain 0)
  else if times ≤ 10 then [.zeros times]
  else [.manyZeros times]

def repeatItems (length times : Nat) : List LengthItem :=
  if times < 3 then .replicate times (.plain length) else [.again times]

def chunked (most : Nat) (item : Nat → List LengthItem) (n : Nat) : List LengthItem :=
  (List.replicate (n / most) (item most)).flatten ++ item (n % most)

def runItems (length n : Nat) : List LengthItem :=
  if length = 0 then chunked 138 zeroItems n
  else .plain length :: chunked 6 (repeatItems length) (n - 1)

def runs : List Nat → List (Nat × Nat)
  | [] => []
  | x :: xs =>
    match runs xs with
    | (y, n) :: rest => if x = y then (y, n + 1) :: rest else (x, 1) :: (y, n) :: rest
    | [] => [(x, 1)]

def lengthItems (lengths : List Nat) : List LengthItem :=
  (runs lengths).flatMap fun (length, n) => runItems length n

def itemOrder : List Nat := [16, 17, 18, 0, 8, 7, 9, 6, 10, 5, 11, 4, 12, 3, 13, 2, 14, 1, 15]

def dropZeros (least : Nat) (xs : List Nat) : List Nat :=
  xs.take least ++ ((xs.drop least).reverse.dropWhile (· == 0)).reverse

def tally (size : Nat) (xs : List Nat) : List Nat :=
  (xs.foldl (fun counts x => counts.modify x (· + 1)) (Array.replicate size 0)).toList

def symbolLengths (tokens : List Token) : List Nat :=
  codeLengths 15 (tally 288 (endOfBlock :: tokens.map Token.symbol))

def distanceLengths (tokens : List Token) : List Nat :=
  codeLengths 15 (tally 32 (tokens.filterMap Token.distanceSymbol?))

/-- The two lists of word lengths as they stand in front of a block: how many there are of each,
the code of the items, and the items. -/
def headerBits (symbols distances : List Nat) : List Bool :=
  let items := lengthItems (symbols ++ distances)
  let itemLengths := codeLengths 7 (tally 19 (items.map LengthItem.symbol))
  let words := (codeWords itemLengths).toArray
  let ordered := dropZeros 4 (itemOrder.map fun i => itemLengths.getD i 0)
  numberBits 5 (symbols.length - 257) ++ numberBits 5 (distances.length - 1) ++
    numberBits 4 (ordered.length - 4) ++ ordered.flatMap (numberBits 3) ++
    items.flatMap fun item => words.getD item.symbol [] ++ item.extra

/-! ### Whole blocks -/

/-- A block: its tokens, the bytes that they describe, and the size of the window at its end. -/
structure Block where
  tokens : List Token
  data : List UInt8
  window : Nat

namespace Block

def fixedBits (b : Block) : List Bool := numberBits 2 1 ++ Code.fixed.bodyBits b.tokens

def dynamicBits (b : Block) : List Bool :=
  let symbols := symbolLengths b.tokens
  let distances := distanceLengths b.tokens
  numberBits 2 2 ++ headerBits (dropZeros 257 symbols) (dropZeros 1 distances) ++
    (Code.ofLengths symbols distances).bodyBits b.tokens

/-- The block in the code that its size calls for: a short one does not pay for a code. -/
def codedBits (b : Block) : List Bool :=
  if b.data.length < 48 then b.fixedBits else b.dynamicBits

/-- The block's bytes as they are, its type in front, when `used` bits stand before it. The length
starts at a byte. -/
def storedBits (b : Block) (used : Nat) : List Bool :=
  let size := b.data.length
  numberBits 2 0 ++ List.replicate ((8 - (used + 2) % 8) % 8) false ++
    numberBits 16 size ++ numberBits 16 (0xffff - size) ++
    b.data.flatMap fun byte => numberBits 8 byte.toNat

/-- Whether the coded form, in `bits` bits behind `used` bits, is no smaller than the bytes, and
the bytes are all in the window. -/
def isExpanded (b : Block) (used bits : Nat) : Bool :=
  let size := b.data.length
  32 < size && size ≤ (used + bits) / 8 - used / 8 + 1 && size ≤ b.window

def bits (b : Block) (final : Bool) (used : Nat) : List Bool :=
  let coded := b.codedBits
  final :: if b.isExpanded (used + 1) coded.length then b.storedBits (used + 1) else coded

end Block

end DiagramDoc.Deflate
