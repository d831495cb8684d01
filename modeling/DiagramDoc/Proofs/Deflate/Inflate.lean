import Mathlib.Tactic

/-! # A reader of compressed streams

A compressed stream is read from its first bit to the end of its final block. The reader knows the
format and nothing about how a stream was made: it has its own tables, builds each code from the
word lengths alone, and refuses what the format forbids. Codes that give out too many or too few
words, lengths of symbols that do not exist, a block without an end, a copy from in front of the
text, and a stored block whose two sizes disagree are all no streams.

Every function gives what it has read together with the bits behind it.
-/

namespace DiagramDoc.Inflate

/-- The bits of bytes, those of each byte from the lowest up. -/
def bitsOfBytes (bytes : List UInt8) : List Bool :=
  bytes.flatMap fun byte => (List.range 8).map byte.toNat.testBit

def readNumber : Nat → List Bool → Option (Nat × List Bool)
  | 0, bits => some (0, bits)
  | _ + 1, [] => none
  | width + 1, bit :: bits => do
    let (n, bits) ← readNumber width bits
    some (bit.toNat + 2 * n, bits)

def readNumbers (width : Nat) : Nat → List Bool → Option (List Nat × List Bool)
  | 0, bits => some ([], bits)
  | count + 1, bits => do
    let (n, bits) ← readNumber width bits
    let (ns, bits) ← readNumbers width count bits
    some (n :: ns, bits)

/-! ### Codes -/

/-- How many words of `length` bits start with no word of a code with these word lengths, or none
if there are not enough words. A length of 0 stands for a symbol without a word. -/
def freeWords? (lengths : List Nat) : Nat → Option Nat
  | 0 => some 1
  | length + 1 => do
    let free ← freeWords? lengths length
    if lengths.count (length + 1) ≤ 2 * free then some (2 * free - lengths.count (length + 1))
    else none

/-- Whether a code has these word lengths. It leaves no word free, unless it has at most one word,
which then is a single bit. -/
def isCode (lengths : List Nat) : Bool :=
  freeWords? lengths 15 == some 0 || (lengths.all (· ≤ 1) && lengths.count 1 ≤ 1)

/-- The symbols that have words of `length` bits, in ascending order. -/
def symbolsAt (lengths : List Nat) (length : Nat) : List Nat :=
  (lengths.zipIdx.filter (·.1 == length)).map (·.2)

/-- Reads a word bit by bit, the highest bit first. The next bit is the last one of a word of
`length` bits, or more bits follow; `word` is the number read so far, and `first` the first word
of `length` bits. -/
def readWord (lengths : List Nat) : Nat → Nat → Nat → Nat → List Bool → Option (Nat × List Bool)
  | 0, _, _, _, _ => none
  | _ + 1, _, _, _, [] => none
  | more + 1, length, word, first, bit :: bits =>
    let word := 2 * word + bit.toNat
    let symbols := symbolsAt lengths length
    match symbols[word - first]? with
    | some symbol => some (symbol, bits)
    | none => readWord lengths more (length + 1) word (2 * (first + symbols.length)) bits

def readSymbol (lengths : List Nat) (bits : List Bool) : Option (Nat × List Bool) :=
  readWord lengths 15 1 0 0 bits

/-! ### Copies -/

/-- The least value and the number of extra bits of the `i`-th symbol for lengths. -/
def lengthRange? (i : Nat) : Option (Nat × Nat) :=
  if i < 8 then some (i + 3, 0)
  else if i < 28 then some ((4 + i % 4) * 2 ^ (i / 4 - 1) + 3, i / 4 - 1)
  else if i = 28 then some (258, 0)
  else none

/-- The least value and the number of extra bits of the `i`-th symbol for distances. -/
def distanceRange? (i : Nat) : Option (Nat × Nat) :=
  if i < 2 then some (i + 1, 0)
  else if i < 30 then some ((2 + i % 2) * 2 ^ (i / 2 - 1) + 1, i / 2 - 1)
  else none

def readInRange (range? : Option (Nat × Nat)) (bits : List Bool) : Option (Nat × List Bool) := do
  let (base, extra) ← range?
  let (n, bits) ← readNumber extra bits
  some (base + n, bits)

/-- The text with `length` more bytes, each the one that stands `distance` bytes back. -/
def copyBack (distance : Nat) : Nat → List UInt8 → Option (List UInt8)
  | 0, out => some out
  | length + 1, out =>
    if distance ≤ out.length then do
      let byte ← out[out.length - distance]?
      copyBack distance length (out ++ [byte])
    else none

/-! ### Blocks -/

/-- The text behind the next symbol of a block and what belongs to it; without a text if the symbol
ends the block. -/
def readStep (symbols distances : List Nat) (out : List UInt8) (bits : List Bool) :
    Option (Option (List UInt8) × List Bool) := do
  let (symbol, bits) ← readSymbol symbols bits
  if symbol < 256 then some (some (out ++ [UInt8.ofNat symbol]), bits)
  else if symbol = 256 then some (none, bits)
  else
    let (length, bits) ← readInRange (lengthRange? (symbol - 257)) bits
    let (slot, bits) ← readSymbol distances bits
    let (distance, bits) ← readInRange (distanceRange? slot) bits
    let out ← copyBack distance length out
    some (some out, bits)

/-- The text at the end of a block in two codes, with a bound on the number of steps. -/
def readBody (symbols distances : List Nat) :
    Nat → List UInt8 → List Bool → Option (List UInt8 × List Bool)
  | 0, _, _ => none
  | bound + 1, out, bits =>
    match readStep symbols distances out bits with
    | some (some out, bits) => readBody symbols distances bound out bits
    | some (none, bits) => some (out, bits)
    | none => none

/-- The word lengths of literals and lengths in the fixed code. -/
def fixedSymbols : List Nat :=
  (List.range 288).map fun s => if s < 144 then 8 else if s < 256 then 9 else if s < 280 then 7 else 8

def fixedDistances : List Nat := List.replicate 32 5

/-- The symbols of the code for word lengths in the order in which their lengths are sent. -/
def sendingOrder : List Nat := [16, 17, 18, 0, 8, 7, 9, 6, 10, 5, 11, 4, 12, 3, 13, 2, 14, 1, 15]

/-- The lengths that the next symbol stands for, behind the lengths `done`. -/
def readRun (code done : List Nat) (bits : List Bool) : Option (List Nat × List Bool) := do
  let (symbol, bits) ← readSymbol code bits
  if symbol < 16 then some ([symbol], bits)
  else if symbol = 16 then
    let last ← done.getLast?
    let (n, bits) ← readNumber 2 bits
    some (List.replicate (3 + n) last, bits)
  else if symbol = 17 then
    let (n, bits) ← readNumber 3 bits
    some (List.replicate (3 + n) 0, bits)
  else
    let (n, bits) ← readNumber 7 bits
    some (List.replicate (11 + n) 0, bits)

/-- Word lengths up to a total of `count`, with a bound on the number of runs. -/
def readLengths (code : List Nat) (count : Nat) :
    Nat → List Nat → List Bool → Option (List Nat × List Bool)
  | 0, done, bits => if done.length = count then some (done, bits) else none
  | bound + 1, done, bits =>
    if done.length = count then some (done, bits)
    else do
      let (run, bits) ← readRun code done bits
      readLengths code count bound (done ++ run) bits

def readCodes (bits : List Bool) : Option ((List Nat × List Nat) × List Bool) := do
  let (n, bits) ← readNumber 5 bits
  let (m, bits) ← readNumber 5 bits
  let (k, bits) ← readNumber 4 bits
  let (sent, bits) ← readNumbers 3 (k + 4) bits
  let code := (List.range 19).map fun s => sent.getD (sendingOrder.idxOf s) 0
  let (lengths, bits) ← readLengths code (n + 257 + (m + 1)) (n + 257 + (m + 1)) [] bits
  let symbols := lengths.take (n + 257)
  let distances := lengths.drop (n + 257)
  if n + 257 ≤ 286 ∧ m + 1 ≤ 30 ∧ isCode code ∧ isCode symbols ∧ isCode distances ∧
      symbols.getD 256 0 ≠ 0 then
    some ((symbols, distances), bits)
  else none

/-- A stored block: its bytes start at the next whole byte, behind their number and its
complement. A stream is made of whole bytes, so what is left of the current byte is what is left
of all bits, up to whole bytes. -/
def readStored (out : List UInt8) (bits : List Bool) : Option (List UInt8 × List Bool) := do
  let (size, bits) ← readNumber 16 (bits.drop (bits.length % 8))
  let (complement, bits) ← readNumber 16 bits
  if size + complement = 0xffff then
    let (bytes, bits) ← readNumbers 8 size bits
    some (out ++ bytes.map UInt8.ofNat, bits)
  else none

/-- A block: whether it is the final one, and the text at its end. A symbol takes a bit or more, so
there are no more steps than bits. -/
def readBlock (out : List UInt8) : List Bool → Option (Bool × List UInt8 × List Bool)
  | [] => none
  | final :: bits => do
    let (kind, bits) ← readNumber 2 bits
    let (out, bits) ←
      match kind with
      | 0 => readStored out bits
      | 1 => readBody fixedSymbols fixedDistances bits.length out bits
      | 2 => do
        let ((symbols, distances), bits) ← readCodes bits
        readBody symbols distances bits.length out bits
      | _ => none
    some (final, out, bits)

/-- The text at the end of the final block, with a bound on the number of blocks. -/
def readBlocks : Nat → List UInt8 → List Bool → Option (List UInt8 × List Bool)
  | 0, _, _ => none
  | bound + 1, out, bits => do
    let (final, out, bits) ← readBlock out bits
    if final then some (out, bits) else readBlocks bound out bits

/-- The text of a stream and the bits behind its final block. -/
def inflate (bytes : List UInt8) : Option (List UInt8 × List Bool) :=
  readBlocks (bitsOfBytes bytes).length [] (bitsOfBytes bytes)

/-- A block in the fixed code with a copy that overlaps itself. -/
example : inflate [0x4b, 0x4c, 0x4a, 0x4e, 0x84, 0x21, 0x00] = some ("abcabcabcabc".toUTF8.data.toList, [false, false]) := by
  decide +kernel

end DiagramDoc.Inflate
