import DiagramDoc.Deflate.Huffman
import DiagramDoc.Proofs.Deflate.Bits

/-! # Words of a code are read back

The words of a code follow from the word lengths, and a reader that knows the lengths finds the
symbol of each word. What makes it work is one count: `taken lengths n` is the number of words of
`n` bits that start with a word of the code. The first word of `n + 1` bits is twice that number, so
a word that has more bits to come is never below it, and the reader does not stop too early.
-/

namespace DiagramDoc.Deflate

open Inflate

def taken (lengths : List Nat) : Nat → Nat
  | 0 => 0
  | n + 1 => 2 * taken lengths n + lengths.count (n + 1)

theorem firstWord_succ (lengths : List Nat) (n : Nat) :
    firstWord lengths (n + 1) = 2 * taken lengths n := by
  induction n with
  | zero => rfl
  | succ n ih =>
    rw [firstWord, ih, taken, if_neg (Nat.succ_ne_zero n)]
    omega

theorem taken_succ (lengths : List Nat) (n : Nat) :
    taken lengths (n + 1) = firstWord lengths (n + 1) + lengths.count (n + 1) := by
  rw [firstWord_succ, taken]

theorem taken_mul_le (lengths : List Nat) (n more : Nat) :
    taken lengths n * 2 ^ more ≤ taken lengths (n + more) := by
  induction more with
  | zero => simp
  | succ more ih =>
    calc taken lengths n * 2 ^ (more + 1) = 2 * (taken lengths n * 2 ^ more) := by ring
      _ ≤ 2 * taken lengths (n + more) := Nat.mul_le_mul_left 2 ih
      _ ≤ 2 * taken lengths (n + more) + lengths.count (n + more + 1) := Nat.le_add_right _ _

theorem taken_le_pow {lengths : List Nat} {n most : Nat} (hn : n ≤ most)
    (h : taken lengths most ≤ 2 ^ most) : taken lengths n ≤ 2 ^ n := by
  obtain ⟨more, rfl⟩ := Nat.exists_eq_add_of_le hn
  have hscaled : taken lengths n * 2 ^ more ≤ 2 ^ n * 2 ^ more :=
    calc taken lengths n * 2 ^ more ≤ taken lengths (n + more) := taken_mul_le lengths n more
      _ ≤ 2 ^ (n + more) := h
      _ = 2 ^ n * 2 ^ more := Nat.pow_add 2 n more
  exact Nat.le_of_mul_le_mul_right hscaled (Nat.two_pow_pos more)

theorem freeWords?_eq {lengths : List Nat} {n : Nat} (h : taken lengths n ≤ 2 ^ n) :
    freeWords? lengths n = some (2 ^ n - taken lengths n) := by
  induction n with
  | zero => rfl
  | succ n ih =>
    have hprev : taken lengths n ≤ 2 ^ n := taken_le_pow (Nat.le_succ n) h
    rw [taken, Nat.pow_succ] at h
    have henough : lengths.count (n + 1) ≤ 2 * (2 ^ n - taken lengths n) := by omega
    have hrest : 2 * (2 ^ n - taken lengths n) - lengths.count (n + 1) =
        2 ^ (n + 1) - taken lengths (n + 1) := by
      rw [taken, Nat.pow_succ]
      omega
    rw [freeWords?, ih hprev, Option.bind_eq_bind, Option.bind_some, if_pos henough, hrest]

theorem taken_append_zeros (lengths : List Nat) (k n : Nat) :
    taken (lengths ++ List.replicate k 0) n = taken lengths n := by
  induction n with
  | zero => rfl
  | succ n ih => simp [taken, ih, List.count_replicate]

/-! ### Symbols with words of one length -/

theorem length_symbolsAt (lengths : List Nat) (n : Nat) :
    (symbolsAt lengths n).length = lengths.count n := by
  have hfst : (lengths.zipIdx.map (·.1)).count n = lengths.count n := by
    rw [List.zipIdx_map_fst]
  rw [← hfst, List.count_eq_countP, List.countP_map, symbolsAt, List.length_map,
    List.countP_eq_length_filter]
  rfl

/-- Among the symbols with words of `n` bits, a symbol stands behind those in front of it. -/
theorem getElem?_symbolsAt {lengths : List Nat} {s n : Nat} (hs : lengths[s]? = some n) :
    (symbolsAt lengths n)[(lengths.take s).count n]? = some s := by
  obtain ⟨hlt, hget⟩ := List.getElem?_eq_some_iff.1 hs
  have hsplit : lengths = lengths.take s ++ n :: lengths.drop (s + 1) := by
    rw [← hget, ← List.drop_eq_getElem_cons hlt, List.take_append_drop]
  have hlen : (lengths.take s).length = s := by simp [hlt.le]
  have hsymbols : ∃ later, symbolsAt lengths n = symbolsAt (lengths.take s) n ++ s :: later := by
    refine ⟨(((lengths.drop (s + 1)).zipIdx (s + 1)).filter (·.1 == n)).map (·.2), ?_⟩
    conv => lhs; rw [hsplit]
    simp [symbolsAt, List.zipIdx_append, hlen]
  obtain ⟨later, hlater⟩ := hsymbols
  rw [hlater, ← length_symbolsAt, List.getElem?_append_right (Nat.le_refl _), Nat.sub_self]
  rfl

/-! ### Reading a word -/

/-- The number that is written as the word of the symbol `s`, whose word has `n` bits. -/
def wordNumber (lengths : List Nat) (s n : Nat) : Nat :=
  firstWord lengths n + (lengths.take s).count n

theorem getElem?_codeWords {lengths : List Nat} {s n : Nat} (hs : lengths[s]? = some n) :
    (codeWords lengths)[s]? = some (wordBits n (wordNumber lengths s n)) := by
  simp [codeWords, hs, wordNumber]

theorem count_take_lt {lengths : List Nat} {s n : Nat} (hs : lengths[s]? = some n) :
    (lengths.take s).count n < lengths.count n := by
  obtain ⟨hlt, _⟩ := List.getElem?_eq_some_iff.1 (getElem?_symbolsAt hs)
  rwa [length_symbolsAt] at hlt

theorem div_pow_succ (value r : Nat) :
    2 * (value / 2 ^ (r + 1)) + (value.testBit r).toNat = value / 2 ^ r := by
  have hbit : (value.testBit r).toNat = value / 2 ^ r % 2 := by
    rw [← toNat_testBit_zero, Nat.testBit_div_two_pow, Nat.zero_add]
  calc 2 * (value / 2 ^ (r + 1)) + (value.testBit r).toNat
      = 2 * (value / 2 ^ r / 2) + value / 2 ^ r % 2 := by
        rw [hbit, Nat.pow_succ, ← Nat.div_div_eq_div_mul]
    _ = value / 2 ^ r := Nat.div_add_mod _ 2

/-- The reader, once it has read all but the last `r + 1` bits of a word, finds the word's symbol.
The induction is on the bits to come. -/
theorem readWord_wordBits {lengths : List Nat} {s : Nat} (rest : List Bool) {r n more : Nat}
    (hs : lengths[s]? = some (n + 1 + r)) (hmore : r < more) :
    readWord lengths more (n + 1) (wordNumber lengths s (n + 1 + r) / 2 ^ (r + 1))
        (firstWord lengths (n + 1)) (wordBits (r + 1) (wordNumber lengths s (n + 1 + r)) ++ rest) =
      some (s, rest) := by
  induction r generalizing n more with
  | zero =>
    obtain ⟨more, rfl⟩ : ∃ m, more = m + 1 := ⟨more - 1, by omega⟩
    have hrank : wordNumber lengths s (n + 1) - firstWord lengths (n + 1) =
        (lengths.take s).count (n + 1) := Nat.add_sub_cancel_left _ _
    have hread : 2 * (wordNumber lengths s (n + 1) / 2 ^ (0 + 1)) +
        ((wordNumber lengths s (n + 1)).testBit 0).toNat = wordNumber lengths s (n + 1) := by
      rw [div_pow_succ, Nat.pow_zero, Nat.div_one]
    simp only [Nat.add_zero] at hs ⊢
    rw [wordBits_succ, List.cons_append, readWord]
    simp only [hread, hrank, getElem?_symbolsAt hs]
    rfl
  | succ r ih =>
    obtain ⟨more, rfl⟩ : ∃ m, more = m + 1 := ⟨more - 1, by omega⟩
    set value := wordNumber lengths s (n + 1 + (r + 1)) with hvalue
    have hlong : n + 1 + (r + 1) = n + 1 + 1 + r := by omega
    -- the word is not below the first free word of `n + 1` bits
    have hfree : taken lengths (n + 1) ≤ value / 2 ^ (r + 1) := by
      have hfirst : 2 * taken lengths (n + 1 + r) ≤ value := by
        rw [hvalue, wordNumber, ← Nat.add_assoc, firstWord_succ]
        exact Nat.le_add_right _ _
      have hscale := taken_mul_le lengths (n + 1) r
      rw [Nat.le_div_iff_mul_le (Nat.two_pow_pos _), Nat.pow_succ, ← Nat.mul_assoc]
      omega
    have hnone : (symbolsAt lengths (n + 1))[value / 2 ^ (r + 1) - firstWord lengths (n + 1)]? =
        none := by
      rw [List.getElem?_eq_none_iff, length_symbolsAt]
      rw [taken_succ] at hfree
      omega
    have hfirst : 2 * (firstWord lengths (n + 1) + (symbolsAt lengths (n + 1)).length) =
        firstWord lengths (n + 1 + 1) := by
      rw [length_symbolsAt, ← taken_succ, ← firstWord_succ]
    rw [wordBits_succ, List.cons_append, readWord]
    simp only [div_pow_succ, hnone, hfirst]
    rw [hlong] at hs hvalue
    rw [hvalue]
    exact ih hs (by omega)

/-- Word lengths of a code that the reader takes: its words are all different and of at most
fifteen bits, and they leave none free. -/
structure IsReadable (lengths : List Nat) : Prop where
  le_max : ∀ n ∈ lengths, n ≤ 15
  taken_le : taken lengths 15 ≤ 2 ^ 15
  accepted : isCode lengths = true

theorem readSymbol_codeWord {lengths : List Nat} {s n : Nat} (hcode : IsReadable lengths)
    (hs : lengths[s]? = some n) (hpos : n ≠ 0) (rest : List Bool) :
    readSymbol lengths ((codeWords lengths).getD s [] ++ rest) = some (s, rest) := by
  obtain ⟨n, rfl⟩ : ∃ m, n = m + 1 := Nat.exists_eq_add_one_of_ne_zero hpos
  have hmax : n + 1 ≤ 15 := hcode.le_max _ (List.mem_of_getElem? hs)
  have hlt : wordNumber lengths s (n + 1) < 2 ^ (n + 1) := by
    have hrank := count_take_lt hs
    have hfits := taken_le_pow hmax hcode.taken_le
    rw [taken_succ] at hfits
    rw [wordNumber]
    omega
  have hs' : lengths[s]? = some (0 + 1 + n) := by rw [hs, Nat.zero_add, Nat.add_comm]
  have hread := readWord_wordBits rest hs' (show n < 15 by omega)
  rw [show 0 + 1 + n = n + 1 by omega, Nat.div_eq_of_lt hlt] at hread
  rw [List.getD_eq_getElem?_getD, getElem?_codeWords hs]
  exact hread

theorem codeWords_append_zeros {lengths : List Nat} {s : Nat} (k : Nat) (hs : s < lengths.length) :
    (codeWords (lengths ++ List.replicate k 0)).getD s [] = (codeWords lengths).getD s [] := by
  obtain ⟨n, hn⟩ : ∃ n, lengths[s]? = some n := ⟨_, List.getElem?_eq_getElem hs⟩
  have hn' : (lengths ++ List.replicate k 0)[s]? = some n := by
    rw [List.getElem?_append_left hs, hn]
  have hfirst : firstWord (lengths ++ List.replicate k 0) n = firstWord lengths n := by
    cases n with
    | zero => rfl
    | succ n => rw [firstWord_succ, firstWord_succ, taken_append_zeros]
  have htake : (lengths ++ List.replicate k 0).take s = lengths.take s :=
    List.take_append_of_le_length hs.le
  rw [List.getD_eq_getElem?_getD, List.getD_eq_getElem?_getD, getElem?_codeWords hn,
    getElem?_codeWords hn', wordNumber, wordNumber, hfirst, htake]

theorem IsReadable.of_append_zeros {lengths : List Nat} {k : Nat}
    (h : IsReadable (lengths ++ List.replicate k 0)) : IsReadable lengths := by
  have hfree (n : Nat) :
      freeWords? (lengths ++ List.replicate k 0) n = freeWords? lengths n := by
    induction n with
    | zero => rfl
    | succ n ih => simp [freeWords?, ih, List.count_replicate]
  refine ⟨fun n hn => h.le_max n (by simp [hn]), ?_, ?_⟩
  · rw [← taken_append_zeros lengths k]
    exact h.taken_le
  · have haccepted := h.accepted
    simp only [isCode, hfree] at haccepted ⊢
    simpa [List.count_replicate, or_imp, forall_and] using haccepted

end DiagramDoc.Deflate
