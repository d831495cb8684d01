/-! # Code lengths and codes

A code gives short words to frequent symbols. The lengths come from the tree that joins the two
lightest parts again and again; where a format bounds the length of a word, words that are too long
are shortened to the bound and as many others as needed grow by one bit. The words themselves
follow from the lengths: shorter words first, and words of one length in the order of their
symbols.
-/

namespace DiagramDoc.Deflate

/-! ### Lengths -/

/-- A part of the tree with the sum of its symbols' counts and the depth of each symbol below its
root. -/
structure Part where
  weight : Nat
  depths : List Nat
  deriving Repr

def Part.under (a b : Part) : Part := ⟨a.weight + b.weight, (a.depths ++ b.depths).map (· + 1)⟩

def insertPart (part : Part) : List Part → List Part
  | [] => [part]
  | q :: rest => if q.weight ≤ part.weight then q :: insertPart part rest else part :: q :: rest

theorem length_insertPart (part : Part) (parts : List Part) :
    (insertPart part parts).length = parts.length + 1 := by
  induction parts with
  | nil => rfl
  | cons q rest ih =>
    rw [insertPart]
    split <;> simp [ih]

def treeDepths : List Part → List Nat
  | [] => []
  | [part] => part.depths
  | a :: b :: rest => treeDepths (insertPart (a.under b) rest)
termination_by parts => parts.length
decreasing_by
  rw [length_insertPart]
  simp

/-- The number of words of each length from `limit` down to 1, when every longer word is cut to
`limit` and a single word has one bit. -/
def lengthCounts (limit : Nat) (depths : List Nat) : List Nat :=
  let depths := depths.map fun d => max 1 (min d limit)
  ((List.range limit).map fun i => depths.count (i + 1)).reverse

/-- The room that words take, in words of the longest length. The counts descend in length; the
first length has words of size `unit`. -/
def room (unit : Nat) : List Nat → Nat
  | [] => 0
  | n :: rest => n * unit + room (2 * unit) rest

/-- The longest word behind the first length gives way to two words one bit longer. -/
def lengthenOne : List Nat → List Nat
  | longer :: shorter :: rest =>
    if 0 < shorter then (longer + 2) :: (shorter - 1) :: rest
    else longer :: lengthenOne (shorter :: rest)
  | counts => counts

/-- Gives back one unit of room: one of the longest words goes, and takes the place beside a
shorter word that grows. -/
def giveBack : List Nat → List Nat
  | [] => []
  | n :: rest => lengthenOne ((n - 1) :: rest)

/-- The lengths of `counts` words, longest first; the counts run from length `limit` down. -/
def expandCounts : Nat → List Nat → List Nat
  | _, [] => []
  | limit, n :: rest => List.replicate n limit ++ expandCounts (limit - 1) rest

/-- Whether the count `a` of a symbol sorts before `b`: rarer first, then the smaller symbol. -/
def rarer (a b : Nat × Nat) : Bool := a.1 < b.1 || (a.1 == b.1 && a.2 ≤ b.2)

def usedSymbols (counts : List Nat) : List (Nat × Nat) :=
  ((counts.zipIdx).filter (0 < ·.1)).mergeSort rarer

/-- The word length of each symbol with the given counts, 0 for a symbol that does not occur. No
word is longer than `limit`. -/
def codeLengths (limit : Nat) (counts : List Nat) : List Nat :=
  let used := usedSymbols counts
  let counted := lengthCounts limit (treeDepths (used.map fun (n, _) => ⟨n, [0]⟩))
  let excess := room 1 counted - Nat.pow 2 limit
  let lengths := expandCounts limit (Nat.repeat giveBack excess counted)
  let assigned := (used.map (·.2)).zip lengths
  (List.range counts.length).map fun symbol => (assigned.lookup symbol).getD 0

/-! ### Words -/

def wordBits (width n : Nat) : List Bool :=
  (List.range width).reverse.map n.testBit

def firstWord (lengths : List Nat) : Nat → Nat
  | 0 => 0
  | length + 1 =>
    (firstWord lengths length + if length = 0 then 0 else lengths.count length) * 2

/-- The words of the symbols with these lengths; a symbol with length 0 has the empty word. -/
def codeWords (lengths : List Nat) : List (List Bool) :=
  lengths.zipIdx.map fun (length, symbol) =>
    wordBits length (firstWord lengths length + (lengths.take symbol).count length)

end DiagramDoc.Deflate
