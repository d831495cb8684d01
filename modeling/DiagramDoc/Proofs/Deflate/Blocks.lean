import DiagramDoc.Deflate.Stream
import DiagramDoc.Proofs.Deflate.Header
import DiagramDoc.Proofs.Deflate.Tokens

/-! # Blocks are read back

Whichever of its three forms a block takes, the reader finds the block's bytes in it and stops
where the next block starts. Nothing but the bytes of the earlier blocks is needed for that.
-/

namespace DiagramDoc.Deflate

open Inflate

theorem Token.symbol_lt {token : Token} (h : token.IsWritable) : token.symbol < 286 := by
  cases token with
  | literal byte =>
    have hbyte : byte.toNat < 256 := byte.toNat_lt
    rw [Token.symbol]
    omega
  | copy length distance =>
    have hindex := (readInRange_length [] h.1 h.2.1).1
    rw [Token.symbol]
    omega

theorem Token.distanceSymbol_lt {token : Token} {d : Nat} (h : token.IsWritable)
    (hd : d ∈ token.distanceSymbol?) : d < 30 := by
  cases token with
  | literal byte => simp [Token.distanceSymbol?] at hd
  | copy length distance =>
    obtain rfl : rangeIndex distanceRanges distance = d := by
      simpa [Token.distanceSymbol?] using hd
    exact (readInRange_distance [] h.2.2.1 h.2.2.2).1

/-- A block that says the truth behind the text `out`: the format has symbols for its tokens, its
tokens give its bytes, and its window is not larger than the format's. -/
structure Block.IsSound (b : Block) (out : List UInt8) : Prop where
  writable : ∀ token ∈ b.tokens, token.IsWritable
  expand : expandAll out b.tokens = some (out ++ b.data)
  window_le : b.window ≤ 32768

namespace Block

variable {b : Block} {out : List UInt8}

/-! ### The fixed code -/

theorem isReadable_fixedLengths : IsReadable fixedLengths where
  le_max := by decide +kernel
  taken_le := by decide +kernel
  accepted := by decide +kernel

theorem isReadable_fixedDistances : IsReadable (List.replicate 32 5) where
  le_max := by decide +kernel
  taken_le := by decide +kernel
  accepted := by decide +kernel

theorem fixedSymbols_eq : fixedSymbols = fixedLengths := by decide +kernel

theorem hasWords_fixed {token : Token} (h : token.IsWritable) :
    token.HasWords fixedLengths (List.replicate 32 5) := by
  have hsymbols : ∀ s < 286, fixedLengths.getD s 0 ≠ 0 := by decide +kernel
  have hdistances : ∀ d < 30, (List.replicate 32 5).getD d 0 ≠ 0 := by decide
  exact ⟨hsymbols _ (Token.symbol_lt h), fun d hd => hdistances d (Token.distanceSymbol_lt h hd)⟩

theorem readBlock_fixedBits (final : Bool) (rest : List Bool) (h : b.IsSound out) :
    readBlock out (final :: (b.fixedBits ++ rest)) = some (final, out ++ b.data, rest) := by
  have hkind := readNumber_numberBits (Code.fixed.bodyBits b.tokens ++ rest) (by decide : 1 < 2 ^ 2)
  have hend : fixedLengths.getD endOfBlock 0 ≠ 0 := by decide +kernel
  have hwords : ∀ token ∈ b.tokens, token.HasWords fixedLengths (List.replicate 32 5) :=
    fun token htoken => hasWords_fixed (h.writable token htoken)
  have hshort : b.tokens.length < (Code.fixed.bodyBits b.tokens ++ rest).length := by
    rw [List.length_append]
    exact Nat.lt_add_right _ (length_lt_length_bodyBits hend hwords)
  have hbody := readBody_bodyBits rest isReadable_fixedLengths isReadable_fixedDistances hend hwords
    h.writable h.expand hshort
  rw [fixedBits, List.append_assoc, readBlock, hkind]
  simp only [Option.bind_eq_bind, Option.bind_some, fixedSymbols_eq, fixedDistances]
  rw [Code.fixed] at hbody ⊢
  rw [hbody]
  rfl

/-! ### A code of its own -/

theorem isReadable_symbolLengths (tokens : List Token) : IsReadable (symbolLengths tokens) :=
  isReadable_codeLengths (by decide) (by decide) (by rw [length_tally]; decide)

theorem isReadable_distanceLengths (tokens : List Token) : IsReadable (distanceLengths tokens) :=
  isReadable_codeLengths (by decide) (by decide) (by rw [length_tally]; decide)

theorem length_symbolLengths (tokens : List Token) : (symbolLengths tokens).length = 288 := by
  rw [symbolLengths, length_codeLengths, length_tally]

theorem length_distanceLengths (tokens : List Token) : (distanceLengths tokens).length = 32 := by
  rw [distanceLengths, length_codeLengths, length_tally]

section Own

variable {tokens : List Token}

theorem getD_symbolLengths {s : Nat} (hs : s < 288) :
    (symbolLengths tokens).getD s 0 = 0 ↔ s ∉ endOfBlock :: tokens.map Token.symbol :=
  getD_codeLengths_tally _ (by decide) (by decide) hs

theorem getD_distanceLengths {d : Nat} (hd : d < 32) :
    (distanceLengths tokens).getD d 0 = 0 ↔ d ∉ tokens.filterMap Token.distanceSymbol? :=
  getD_codeLengths_tally _ (by decide) (by decide) hd

theorem hasWords_own (h : ∀ token ∈ tokens, token.IsWritable) {token : Token}
    (htoken : token ∈ tokens) :
    token.HasWords (dropZeros 257 (symbolLengths tokens)) (dropZeros 1 (distanceLengths tokens)) := by
  constructor
  · have hlt := Token.symbol_lt (h token htoken)
    rw [getD_dropZeros, Ne, getD_symbolLengths (by omega), not_not]
    exact List.mem_cons_of_mem _ (List.mem_map_of_mem htoken)
  · intro d hd
    have hlt := Token.distanceSymbol_lt (h token htoken) hd
    rw [getD_dropZeros, Ne, getD_distanceLengths (by omega), not_not]
    exact List.mem_filterMap.2 ⟨token, htoken, hd⟩

theorem length_dropZeros_symbolLengths (h : ∀ token ∈ tokens, token.IsWritable) :
    (dropZeros 257 (symbolLengths tokens)).length ≤ 286 := by
  apply length_dropZeros_le_of_zero (by decide)
  intro i hi
  by_cases hi' : i < 288
  · rw [getD_symbolLengths hi', List.mem_cons, not_or]
    constructor
    · intro heq
      rw [heq, endOfBlock] at hi
      omega
    · intro hmem
      obtain ⟨token, htoken, rfl⟩ := List.mem_map.1 hmem
      have hlt := Token.symbol_lt (h token htoken)
      omega
  · rw [List.getD_eq_getElem?_getD,
      List.getElem?_eq_none (by rw [length_symbolLengths]; omega), Option.getD_none]

theorem length_dropZeros_distanceLengths (h : ∀ token ∈ tokens, token.IsWritable) :
    (dropZeros 1 (distanceLengths tokens)).length ≤ 30 := by
  apply length_dropZeros_le_of_zero (by decide)
  intro i hi
  by_cases hi' : i < 32
  · rw [getD_distanceLengths hi']
    intro hmem
    obtain ⟨token, htoken, hd⟩ := List.mem_filterMap.1 hmem
    have hlt := Token.distanceSymbol_lt (h token htoken) hd
    omega
  · rw [List.getD_eq_getElem?_getD,
      List.getElem?_eq_none (by rw [length_distanceLengths]; omega), Option.getD_none]

end Own

theorem readBlock_dynamicBits (final : Bool) (rest : List Bool) (h : b.IsSound out) :
    readBlock out (final :: (b.dynamicBits ++ rest)) = some (final, out ++ b.data, rest) := by
  obtain ⟨symbols, hsymbols⟩ : ∃ symbols, symbols = dropZeros 257 (symbolLengths b.tokens) :=
    ⟨_, rfl⟩
  obtain ⟨distances, hdistances⟩ : ∃ distances, distances = dropZeros 1 (distanceLengths b.tokens) :=
    ⟨_, rfl⟩
  have hcode : IsReadable symbols := by
    rw [hsymbols]
    exact isReadable_dropZeros (isReadable_symbolLengths _)
  have hcode' : IsReadable distances := by
    rw [hdistances]
    exact isReadable_dropZeros (isReadable_distanceLengths _)
  have hend : symbols.getD endOfBlock 0 ≠ 0 := by
    rw [hsymbols, getD_dropZeros, Ne, getD_symbolLengths (by decide), not_not]
    exact List.mem_cons_self
  have hwords : ∀ token ∈ b.tokens, token.HasWords symbols distances := by
    rw [hsymbols, hdistances]
    exact fun token htoken => hasWords_own h.writable htoken
  have hbits : b.dynamicBits ++ rest = numberBits 2 2 ++ (headerBits symbols distances ++
      ((Code.ofLengths symbols distances).bodyBits b.tokens ++ rest)) := by
    obtain ⟨j, hj⟩ := exists_dropZeros_append 257 (symbolLengths b.tokens)
    obtain ⟨k, hk⟩ := exists_dropZeros_append 1 (distanceLengths b.tokens)
    rw [← hsymbols] at hj
    rw [← hdistances] at hk
    rw [← bodyBits_append_zeros j k hend hwords, ← hj, ← hk, hsymbols, hdistances]
    simp only [dynamicBits, List.append_assoc]
  have hheader := readCodes_headerBits
    ((Code.ofLengths symbols distances).bodyBits b.tokens ++ rest) hcode hcode'
    (by rw [hsymbols]; exact le_length_dropZeros (by rw [length_symbolLengths]; decide))
    (by rw [hsymbols]; exact length_dropZeros_symbolLengths h.writable)
    (by rw [hdistances]; exact le_length_dropZeros (by rw [length_distanceLengths]; decide))
    (by rw [hdistances]; exact length_dropZeros_distanceLengths h.writable) hend
  have hshort : b.tokens.length <
      ((Code.ofLengths symbols distances).bodyBits b.tokens ++ rest).length := by
    rw [List.length_append]
    exact Nat.lt_add_right _ (length_lt_length_bodyBits hend hwords)
  have hbody := readBody_bodyBits rest hcode hcode' hend hwords h.writable h.expand hshort
  rw [hbits, readBlock, readNumber_numberBits _ (by decide)]
  simp only [Option.bind_eq_bind, Option.bind_some, hheader, hbody]

/-! ### Stored bytes -/

theorem readBlock_storedBits {used : Nat} (final : Bool) (rest : List Bool)
    (hsize : b.data.length < 65536)
    (haligned : (used + (b.storedBits used ++ rest).length) % 8 = 0) :
    readBlock out (final :: (b.storedBits used ++ rest)) = some (final, out ++ b.data, rest) := by
  obtain ⟨bytes, hbytes⟩ : ∃ bytes, bytes = b.data.map UInt8.toNat := ⟨_, rfl⟩
  have hlt : ∀ n ∈ bytes, n < 2 ^ 8 := by
    rw [hbytes]
    intro n hn
    obtain ⟨byte, -, rfl⟩ := List.mem_map.1 hn
    exact byte.toNat_lt
  have hlen : bytes.length = b.data.length := by rw [hbytes, List.length_map]
  have hback : bytes.map UInt8.ofNat = b.data := by simp [hbytes, Function.comp_def]
  obtain ⟨payload, hpayload⟩ : ∃ payload, payload = numberBits 16 b.data.length ++
      (numberBits 16 (0xffff - b.data.length) ++ (bytes.flatMap (numberBits 8) ++ rest)) := ⟨_, rfl⟩
  have hbits : b.storedBits used ++ rest = numberBits 2 0 ++
      (List.replicate ((8 - (used + 2) % 8) % 8) false ++ payload) := by
    simp only [storedBits, List.append_assoc, hpayload, hbytes, List.flatMap_map]
  have hgap : (List.replicate ((8 - (used + 2) % 8) % 8) false ++ payload).drop
      ((List.replicate ((8 - (used + 2) % 8) % 8) false ++ payload).length % 8) = payload := by
    rw [hbits] at haligned
    simp only [List.length_append, List.length_replicate, length_numberBits] at haligned ⊢
    have hwhole : payload.length % 8 = 0 := by omega
    rw [show ((8 - (used + 2) % 8) % 8 + payload.length) % 8 =
      (8 - (used + 2) % 8) % 8 by omega]
    exact List.drop_left' (List.length_replicate ..)
  have hread := readNumbers_flatMap rest hlt
  rw [hlen] at hread
  have hstored : readStored out (List.replicate ((8 - (used + 2) % 8) % 8) false ++ payload) =
      some (out ++ b.data, rest) := by
    rw [readStored, hgap, hpayload, readNumber_numberBits _ (by omega)]
    simp only [Option.bind_eq_bind, Option.bind_some]
    rw [readNumber_numberBits _ (by omega), Option.bind_some, if_pos (by omega), hread]
    simp only [Option.bind_some, hback]
  rw [hbits, readBlock, readNumber_numberBits _ (by decide)]
  simp only [Option.bind_eq_bind, Option.bind_some, hstored]

/-! ### Any block -/

/-- **A block is read back**, whatever its form. -/
theorem readBlock_bits {final : Bool} {used : Nat} (rest : List Bool) (h : b.IsSound out)
    (haligned : (used + (b.bits final used ++ rest).length) % 8 = 0) :
    readBlock out (b.bits final used ++ rest) = some (final, out ++ b.data, rest) := by
  rw [bits] at haligned ⊢
  by_cases hexpanded : b.isExpanded (used + 1) b.codedBits.length = true
  · have hsize : b.data.length ≤ b.window := by
      simp only [isExpanded, Bool.and_eq_true, decide_eq_true_eq] at hexpanded
      exact hexpanded.2
    have hwindow := h.window_le
    rw [if_pos hexpanded, List.cons_append] at haligned ⊢
    refine readBlock_storedBits final rest (by omega) ?_
    rw [List.length_cons] at haligned
    omega
  · rw [if_neg hexpanded, List.cons_append, codedBits]
    split
    · exact readBlock_fixedBits final rest h
    · exact readBlock_dynamicBits final rest h

theorem length_bits_pos (final : Bool) (used : Nat) : 0 < (b.bits final used).length := by
  rw [bits]
  exact Nat.succ_pos _

end Block

/-! ### All blocks -/

/-- Blocks that say the truth one behind the other, the first behind `out`. -/
def AreSound (out : List UInt8) : List Block → Prop
  | [] => True
  | b :: rest => b.IsSound out ∧ AreSound (out ++ b.data) rest

theorem length_le_length_blocksBits (used : Nat) (blocks : List Block) :
    blocks.length ≤ (blocksBits used blocks).length := by
  fun_induction blocksBits used blocks with
  | case1 => simp
  | case2 used b => exact Block.length_bits_pos true used
  | case3 used b rest hne bits ih =>
    have hpos := Block.length_bits_pos (b := b) false used
    rw [List.length_cons, List.length_append]
    simp only [bits] at *
    omega

/-- **The blocks of a stream are read back** up to the end of the last one. -/
theorem readBlocks_blocksBits {blocks : List Block} {used bound : Nat} {out : List UInt8}
    (rest : List Bool) (hne : blocks ≠ []) (h : AreSound out blocks)
    (haligned : (used + (blocksBits used blocks ++ rest).length) % 8 = 0)
    (hbound : blocks.length ≤ bound) :
    readBlocks bound out (blocksBits used blocks ++ rest) =
      some (out ++ blocks.flatMap Block.data, rest) := by
  induction blocks generalizing used bound out with
  | nil => exact absurd rfl hne
  | cons b blocks ih =>
    rw [List.length_cons] at hbound
    obtain ⟨bound, rfl⟩ : ∃ k, bound = k + 1 := ⟨bound - 1, by omega⟩
    cases blocks with
    | nil =>
      rw [readBlocks, blocksBits, Block.readBlock_bits rest h.1 haligned]
      simp
    | cons c blocks =>
      have hbits : blocksBits used (b :: c :: blocks) ++ rest = b.bits false used ++
          (blocksBits (used + (b.bits false used).length) (c :: blocks) ++ rest) :=
        List.append_assoc ..
      rw [hbits] at haligned ⊢
      have hblock := Block.readBlock_bits _ h.1 haligned
      rw [List.length_append, ← Nat.add_assoc] at haligned
      have hrest := ih (List.cons_ne_nil c blocks) h.2 haligned (by omega : _ ≤ bound)
      rw [readBlocks, hblock]
      simp only [Option.bind_eq_bind, Option.bind_some, Bool.false_eq_true, if_false]
      rw [hrest, List.append_assoc]
      rfl

end DiagramDoc.Deflate
