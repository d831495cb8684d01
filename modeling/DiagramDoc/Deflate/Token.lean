/-! # Tokens of a compressed text

A text of bytes is described by literals and by copies of what has come before. A copy's length
and distance are written as a symbol, which stands for a range of values, and extra bits, which
choose a value in the range.
-/

namespace DiagramDoc.Deflate

inductive Token where
  | literal (byte : UInt8)
  | copy (length distance : Nat)
  deriving DecidableEq, Repr

def Token.width : Token → Nat
  | literal _ => 1
  | copy length _ => length

/-- A range of values with one symbol: its least value and the number of extra bits. -/
structure ValueRange where
  base : Nat
  extra : Nat
  deriving DecidableEq, Repr

def lengthRanges : List ValueRange := [
  ⟨3, 0⟩, ⟨4, 0⟩, ⟨5, 0⟩, ⟨6, 0⟩, ⟨7, 0⟩, ⟨8, 0⟩, ⟨9, 0⟩, ⟨10, 0⟩, ⟨11, 1⟩, ⟨13, 1⟩, ⟨15, 1⟩,
  ⟨17, 1⟩, ⟨19, 2⟩, ⟨23, 2⟩, ⟨27, 2⟩, ⟨31, 2⟩, ⟨35, 3⟩, ⟨43, 3⟩, ⟨51, 3⟩, ⟨59, 3⟩, ⟨67, 4⟩,
  ⟨83, 4⟩, ⟨99, 4⟩, ⟨115, 4⟩, ⟨131, 5⟩, ⟨163, 5⟩, ⟨195, 5⟩, ⟨227, 5⟩, ⟨258, 0⟩]

def distanceRanges : List ValueRange := [
  ⟨1, 0⟩, ⟨2, 0⟩, ⟨3, 0⟩, ⟨4, 0⟩, ⟨5, 1⟩, ⟨7, 1⟩, ⟨9, 2⟩, ⟨13, 2⟩, ⟨17, 3⟩, ⟨25, 3⟩, ⟨33, 4⟩,
  ⟨49, 4⟩, ⟨65, 5⟩, ⟨97, 5⟩, ⟨129, 6⟩, ⟨193, 6⟩, ⟨257, 7⟩, ⟨385, 7⟩, ⟨513, 8⟩, ⟨769, 8⟩,
  ⟨1025, 9⟩, ⟨1537, 9⟩, ⟨2049, 10⟩, ⟨3073, 10⟩, ⟨4097, 11⟩, ⟨6145, 11⟩, ⟨8193, 12⟩, ⟨12289, 12⟩,
  ⟨16385, 13⟩, ⟨24577, 13⟩]

def rangeIndex (ranges : List ValueRange) (value : Nat) : Nat :=
  (ranges.takeWhile (·.base ≤ value)).length - 1

def endOfBlock : Nat := 256

def Token.symbol : Token → Nat
  | literal byte => byte.toNat
  | copy length _ => 257 + rangeIndex lengthRanges length

def Token.distanceSymbol? : Token → Option Nat
  | literal _ => none
  | copy _ distance => some (rangeIndex distanceRanges distance)

end DiagramDoc.Deflate
