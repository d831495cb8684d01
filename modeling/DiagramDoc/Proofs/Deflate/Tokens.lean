import DiagramDoc.Deflate.Block
import DiagramDoc.Proofs.Deflate.Words

/-! # Tokens are read back

A token stands for bytes: a literal for one, a copy for bytes that the text already holds. Written
in a code whose words the reader knows, the tokens of a block make the reader go on by just these
bytes, and it stops at the end of the block.
-/

namespace DiagramDoc.Deflate

open Inflate

namespace Token

/-- The text behind a token, if the token can follow the text `out`. -/
def expand (out : List UInt8) : Token → Option (List UInt8)
  | literal byte => some (out ++ [byte])
  | copy length distance => copyBack distance length out

/-- Whether a token has symbols: the length and the distance of a copy are within the format. -/
def IsWritable : Token → Prop
  | literal _ => True
  | copy length distance => 3 ≤ length ∧ length ≤ 258 ∧ 1 ≤ distance ∧ distance ≤ 32768

def HasWords (symbols distances : List Nat) (token : Token) : Prop :=
  symbols.getD token.symbol 0 ≠ 0 ∧ ∀ d ∈ token.distanceSymbol?, distances.getD d 0 ≠ 0

end Token

/-! ### Ranges -/

/-- Every value from the first range to the last one lies in the range that is found for it, if no
range starts behind the end of the one before. -/
theorem rangeIndex_spec {ranges : List ValueRange} {value : Nat} (hne : ranges ≠ [])
    (hchain : ranges.IsChain fun a b => b.base ≤ a.base + 2 ^ a.extra)
    (hfirst : ∀ r ∈ ranges.head?, r.base ≤ value)
    (hlast : ∀ r ∈ ranges.getLast?, value < r.base + 2 ^ r.extra) :
    ∃ r, ranges[rangeIndex ranges value]? = some r ∧ r.base ≤ value ∧
      value < r.base + 2 ^ r.extra := by
  induction ranges with
  | nil => exact absurd rfl hne
  | cons r rest ih =>
    have hr : r.base ≤ value := hfirst r (by simp)
    cases rest with
    | nil =>
      refine ⟨r, by simp [rangeIndex, hr], hr, ?_⟩
      exact hlast r (by simp)
    | cons s rest =>
      rw [List.isChain_cons_cons] at hchain
      by_cases hs : s.base ≤ value
      · have hnext : rangeIndex (r :: s :: rest) value = rangeIndex (s :: rest) value + 1 := by
          simp [rangeIndex, hr, hs]
        rw [hnext, List.getElem?_cons_succ]
        exact ih (by simp) hchain.2 (by simpa using hs) (by simpa using hlast)
      · have hzero : rangeIndex (r :: s :: rest) value = 0 := by
          simp [rangeIndex, hr, hs]
        rw [hzero]
        exact ⟨r, rfl, hr, by omega⟩

theorem readInRange_extraBits {ranges : List ValueRange} {range? : Nat → Option (Nat × Nat)}
    {value : Nat} {r : ValueRange} (rest : List Bool)
    (hindex : ranges[rangeIndex ranges value]? = some r)
    (htable : range? (rangeIndex ranges value) = some (r.base, r.extra))
    (hbase : r.base ≤ value) (hextra : value < r.base + 2 ^ r.extra) :
    readInRange (range? (rangeIndex ranges value)) (extraBits ranges value ++ rest) =
      some (value, rest) := by
  have hbits : extraBits ranges value = numberBits r.extra (value - r.base) := by
    rw [extraBits, List.getD_eq_getElem?_getD, hindex]
    rfl
  rw [readInRange, htable, hbits]
  have hlt : value - r.base < 2 ^ r.extra := by omega
  simp [readNumber_numberBits rest hlt, hbase]

theorem lengthRange?_eq : ∀ i < 29, lengthRange? i =
    (lengthRanges[i]?).map fun r => (r.base, r.extra) := by
  decide

theorem distanceRange?_eq : ∀ i < 30, distanceRange? i =
    (distanceRanges[i]?).map fun r => (r.base, r.extra) := by
  decide

theorem readInRange_length {length : Nat} (rest : List Bool) (hmin : 3 ≤ length)
    (hmax : length ≤ 258) :
    rangeIndex lengthRanges length < 29 ∧
      readInRange (lengthRange? (rangeIndex lengthRanges length))
        (extraBits lengthRanges length ++ rest) = some (length, rest) := by
  obtain ⟨r, hindex, hbase, hextra⟩ :=
    rangeIndex_spec (by decide : lengthRanges ≠ []) (by decide)
      (by simpa [lengthRanges] using hmin)
      (by simpa [lengthRanges] using Nat.lt_succ_of_le hmax)
  have hlt : rangeIndex lengthRanges length < 29 := (List.getElem?_eq_some_iff.1 hindex).1
  refine ⟨hlt, readInRange_extraBits rest hindex ?_ hbase hextra⟩
  rw [lengthRange?_eq _ hlt, hindex]
  rfl

theorem readInRange_distance {distance : Nat} (rest : List Bool) (hmin : 1 ≤ distance)
    (hmax : distance ≤ 32768) :
    rangeIndex distanceRanges distance < 30 ∧
      readInRange (distanceRange? (rangeIndex distanceRanges distance))
        (extraBits distanceRanges distance ++ rest) = some (distance, rest) := by
  obtain ⟨r, hindex, hbase, hextra⟩ :=
    rangeIndex_spec (by decide : distanceRanges ≠ []) (by decide)
      (by simpa [distanceRanges] using hmin)
      (by simpa [distanceRanges] using Nat.lt_succ_of_le hmax)
  have hlt : rangeIndex distanceRanges distance < 30 := (List.getElem?_eq_some_iff.1 hindex).1
  refine ⟨hlt, readInRange_extraBits rest hindex ?_ hbase hextra⟩
  rw [distanceRange?_eq _ hlt, hindex]
  rfl

/-! ### A token -/

theorem getD_toArray_codeWords (lengths : List Nat) (s : Nat) :
    (codeWords lengths).toArray.getD s [] = (codeWords lengths).getD s [] := by
  simp [Array.getD_eq_getD_getElem?, List.getD_eq_getElem?_getD]

theorem getElem?_of_getD_ne_zero {lengths : List Nat} {s : Nat} (h : lengths.getD s 0 ≠ 0) :
    ∃ n, lengths[s]? = some n ∧ n ≠ 0 := by
  rw [List.getD_eq_getElem?_getD] at h
  cases hs : lengths[s]? with
  | none => simp [hs] at h
  | some n => exact ⟨n, rfl, by simpa [hs] using h⟩

theorem readSymbol_word {lengths : List Nat} {s : Nat} (hcode : IsReadable lengths)
    (hs : lengths.getD s 0 ≠ 0) (rest : List Bool) :
    readSymbol lengths ((codeWords lengths).toArray.getD s [] ++ rest) = some (s, rest) := by
  obtain ⟨n, hn, hpos⟩ := getElem?_of_getD_ne_zero hs
  rw [getD_toArray_codeWords]
  exact readSymbol_codeWord hcode hn hpos rest

theorem length_word_pos {lengths : List Nat} {s : Nat} (hs : lengths.getD s 0 ≠ 0) :
    0 < ((codeWords lengths).toArray.getD s []).length := by
  obtain ⟨n, hn, hpos⟩ := getElem?_of_getD_ne_zero hs
  rw [getD_toArray_codeWords, List.getD_eq_getElem?_getD, getElem?_codeWords hn]
  simpa using Nat.pos_of_ne_zero hpos

section Body

variable {symbols distances : List Nat}

theorem readStep_tokenBits {token : Token} {out out' : List UInt8} (rest : List Bool)
    (hsymbols : IsReadable symbols) (hdistances : IsReadable distances)
    (hwords : token.HasWords symbols distances) (hwritable : token.IsWritable)
    (hexpand : token.expand out = some out') :
    readStep symbols distances out ((Code.ofLengths symbols distances).tokenBits token ++ rest) =
      some (some out', rest) := by
  cases token with
  | literal byte =>
    have hread := readSymbol_word hsymbols hwords.1 rest
    have hbyte : (Token.literal byte).symbol < 256 := byte.toNat_lt
    simp only [Code.tokenBits, Code.ofLengths, Token.symbol] at hread hbyte ⊢
    rw [readStep, hread]
    simpa [hbyte, Token.expand] using hexpand
  | copy length distance =>
    obtain ⟨hmin, hmax, hnear, hfar⟩ := hwritable
    have hdistance : distances.getD (rangeIndex distanceRanges distance) 0 ≠ 0 :=
      hwords.2 _ (by simp [Token.distanceSymbol?])
    obtain ⟨-, hlength⟩ := readInRange_length
      ((codeWords distances).toArray.getD (rangeIndex distanceRanges distance) [] ++
        (extraBits distanceRanges distance ++ rest)) hmin hmax
    obtain ⟨-, hback⟩ := readInRange_distance rest hnear hfar
    have hlong : ¬ (Token.copy length distance).symbol < 256 := by
      simp only [Token.symbol]
      omega
    have hend : (Token.copy length distance).symbol ≠ 256 := by
      simp only [Token.symbol]
      omega
    have hindex : (Token.copy length distance).symbol - 257 = rangeIndex lengthRanges length := by
      simp only [Token.symbol]
      omega
    rw [readStep, Code.tokenBits, Code.ofLengths]
    simp only [List.append_assoc]
    rw [readSymbol_word hsymbols hwords.1]
    simp only [Option.bind_eq_bind, Option.bind_some, hlong, hend, if_false, hindex, hlength,
      readSymbol_word hdistances hdistance, hback]
    rw [Token.expand] at hexpand
    rw [hexpand]
    rfl

def expandAll (out : List UInt8) (tokens : List Token) : Option (List UInt8) :=
  tokens.foldlM Token.expand out

theorem readBody_bodyBits {tokens : List Token} {out out' : List UInt8} {bound : Nat}
    (rest : List Bool) (hsymbols : IsReadable symbols) (hdistances : IsReadable distances)
    (hend : symbols.getD endOfBlock 0 ≠ 0)
    (hwords : ∀ token ∈ tokens, token.HasWords symbols distances)
    (hwritable : ∀ token ∈ tokens, token.IsWritable)
    (hexpand : expandAll out tokens = some out') (hbound : tokens.length < bound) :
    readBody symbols distances bound out
        ((Code.ofLengths symbols distances).bodyBits tokens ++ rest) = some (out', rest) := by
  obtain ⟨bound, rfl⟩ : ∃ b, bound = b + 1 := ⟨bound - 1, by omega⟩
  induction tokens generalizing out bound with
  | nil =>
    have hread := readSymbol_word hsymbols hend rest
    obtain rfl : out = out' := by simpa [expandAll] using hexpand
    have hstep : readStep symbols distances out
        ((Code.ofLengths symbols distances).bodyBits [] ++ rest) = some (none, rest) := by
      simp only [Code.bodyBits, List.flatMap_nil, List.nil_append, Code.ofLengths]
      rw [readStep, hread]
      rfl
    rw [readBody, hstep]
  | cons token tokens ih =>
    obtain ⟨bound, rfl⟩ : ∃ b, bound = b + 1 := ⟨bound - 1, by rw [List.length_cons] at hbound; omega⟩
    rw [expandAll, List.foldlM_cons, Option.bind_eq_bind, Option.bind_eq_some_iff] at hexpand
    obtain ⟨next, hnext, hexpand⟩ := hexpand
    have hbits : (Code.ofLengths symbols distances).bodyBits (token :: tokens) ++ rest =
        (Code.ofLengths symbols distances).tokenBits token ++
          ((Code.ofLengths symbols distances).bodyBits tokens ++ rest) := by
      simp [Code.bodyBits]
    rw [hbits, readBody, readStep_tokenBits _ hsymbols hdistances (hwords token (by simp))
      (hwritable token (by simp)) hnext]
    exact ih (fun t ht => hwords t (by simp [ht])) (fun t ht => hwritable t (by simp [ht])) hexpand
      bound (by simpa using hbound)

theorem length_lt_length_bodyBits {tokens : List Token} (hend : symbols.getD endOfBlock 0 ≠ 0)
    (hwords : ∀ token ∈ tokens, token.HasWords symbols distances) :
    tokens.length < ((Code.ofLengths symbols distances).bodyBits tokens).length := by
  have htokens : tokens.length ≤
      (tokens.flatMap (Code.ofLengths symbols distances).tokenBits).length := by
    rw [List.length_flatMap]
    apply (List.length_map ..).symm.le.trans
    apply List.length_le_sum_of_one_le
    intro n hn
    obtain ⟨token, htoken, rfl⟩ := List.mem_map.1 hn
    have hpos := length_word_pos (hwords token htoken).1
    cases token with
    | literal byte => exact hpos
    | copy length distance =>
      simp only [Code.tokenBits, Code.ofLengths, List.length_append]
      omega
  have hpos := length_word_pos hend
  rw [Code.bodyBits, List.length_append]
  exact Nat.lt_of_le_of_lt htokens (Nat.lt_add_of_pos_right hpos)

theorem bodyBits_append_zeros {tokens : List Token} (j k : Nat)
    (hend : symbols.getD endOfBlock 0 ≠ 0)
    (hwords : ∀ token ∈ tokens, token.HasWords symbols distances) :
    (Code.ofLengths (symbols ++ List.replicate j 0)
        (distances ++ List.replicate k 0)).bodyBits tokens =
      (Code.ofLengths symbols distances).bodyBits tokens := by
  have hword {lengths : List Nat} {s : Nat} (i : Nat) (hs : lengths.getD s 0 ≠ 0) :
      (codeWords (lengths ++ List.replicate i 0)).toArray.getD s [] =
        (codeWords lengths).toArray.getD s [] := by
    obtain ⟨n, hn, -⟩ := getElem?_of_getD_ne_zero hs
    rw [getD_toArray_codeWords, getD_toArray_codeWords,
      codeWords_append_zeros i (List.getElem?_eq_some_iff.1 hn).1]
  simp only [Code.bodyBits, Code.ofLengths, hword j hend]
  congr 1
  apply List.flatMap_congr
  intro token htoken
  obtain ⟨hsymbol, hdistance⟩ := hwords token htoken
  cases token with
  | literal byte => exact hword j hsymbol
  | copy length distance =>
    have hback : distances.getD (rangeIndex distanceRanges distance) 0 ≠ 0 :=
      hdistance _ (by simp [Token.distanceSymbol?])
    simp only [Code.tokenBits, hword j hsymbol, hword k hback]

end Body

end DiagramDoc.Deflate
