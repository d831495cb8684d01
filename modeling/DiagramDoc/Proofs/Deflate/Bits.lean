import DiagramDoc.Deflate.Stream
import DiagramDoc.Proofs.Deflate.Inflate

/-! # Numbers and bytes in bits

A number is read back from its bits when they are as many as the reader takes, and packing bits
into bytes loses nothing: the bytes have the same bits, and zeros up to a whole byte.
-/

namespace DiagramDoc.Deflate

open Inflate

@[simp]
theorem length_numberBits (width n : Nat) : (numberBits width n).length = width := by
  simp [numberBits]

@[simp]
theorem length_wordBits (width n : Nat) : (wordBits width n).length = width := by
  simp [wordBits]

theorem numberBits_succ (width n : Nat) :
    numberBits (width + 1) n = n.testBit 0 :: numberBits width (n / 2) := by
  simp [numberBits, List.range_succ_eq_map, Nat.testBit_succ]

theorem wordBits_succ (width n : Nat) :
    wordBits (width + 1) n = n.testBit width :: wordBits width n := by
  simp [wordBits, List.range_succ]

theorem toNat_testBit_zero (n : Nat) : (n.testBit 0).toNat = n % 2 := by
  rw [Nat.testBit_zero]
  rcases Nat.mod_two_eq_zero_or_one n with h | h <;> simp [h]

theorem readNumber_numberBits {width n : Nat} (rest : List Bool) (h : n < 2 ^ width) :
    readNumber width (numberBits width n ++ rest) = some (n, rest) := by
  induction width generalizing n with
  | zero =>
    obtain rfl : n = 0 := by simpa using h
    rfl
  | succ width ih =>
    have hhalf : n / 2 < 2 ^ width := by
      rw [Nat.pow_succ] at h
      omega
    have hbits : n % 2 + 2 * (n / 2) = n := Nat.mod_add_div n 2
    rw [numberBits_succ, List.cons_append, readNumber, ih hhalf, toNat_testBit_zero]
    simp [hbits]

theorem readNumbers_flatMap {width : Nat} {ns : List Nat} (rest : List Bool)
    (h : ∀ n ∈ ns, n < 2 ^ width) :
    readNumbers width ns.length (ns.flatMap (numberBits width) ++ rest) = some (ns, rest) := by
  induction ns with
  | nil => rfl
  | cons n ns ih =>
    have hn : n < 2 ^ width := h n (by simp)
    have hns : ∀ m ∈ ns, m < 2 ^ width := fun m hm => h m (by simp [hm])
    rw [List.flatMap_cons, List.append_assoc, List.length_cons, readNumbers,
      readNumber_numberBits _ hn]
    simp [ih hns]

/-! ### Packing -/

theorem bitsNumber_lt (bits : List Bool) : bitsNumber bits < 2 ^ bits.length := by
  induction bits with
  | nil => simp [bitsNumber]
  | cons b bits ih =>
    have hb : b.toNat ≤ 1 := Bool.toNat_le b
    rw [bitsNumber, List.length_cons, Nat.pow_succ]
    omega

theorem numberBits_bitsNumber {width : Nat} {bits : List Bool} (h : bits.length ≤ width) :
    numberBits width (bitsNumber bits) = bits ++ List.replicate (width - bits.length) false := by
  induction width generalizing bits with
  | zero =>
    obtain rfl : bits = [] := List.length_eq_zero_iff.1 (by omega)
    rfl
  | succ width ih =>
    rw [numberBits_succ]
    cases bits with
    | nil =>
      have hempty : ([] : List Bool).length ≤ width := Nat.zero_le width
      have hzeros := ih hempty
      rw [bitsNumber] at hzeros ⊢
      simpa [List.replicate_succ] using hzeros
    | cons b bits =>
      have hlow : (bitsNumber (b :: bits)).testBit 0 = b := by
        cases b <;> simp [bitsNumber, Nat.testBit_zero, Nat.add_mod]
      have hhigh : bitsNumber (b :: bits) / 2 = bitsNumber bits := by
        have hb : b.toNat ≤ 1 := Bool.toNat_le b
        rw [bitsNumber]
        omega
      rw [hlow, hhigh, ih (by simpa using h)]
      simp

theorem bitsOfBytes_cons (byte : UInt8) (bytes : List UInt8) :
    bitsOfBytes (byte :: bytes) = numberBits 8 byte.toNat ++ bitsOfBytes bytes := rfl

theorem bitsOfBytes_append (as bs : List UInt8) :
    bitsOfBytes (as ++ bs) = bitsOfBytes as ++ bitsOfBytes bs := by
  simp [bitsOfBytes]

theorem length_bitsOfBytes (bytes : List UInt8) : (bitsOfBytes bytes).length = 8 * bytes.length := by
  induction bytes with
  | nil => rfl
  | cons byte bytes ih =>
    rw [bitsOfBytes_cons, List.length_append, length_numberBits, ih, List.length_cons]
    omega

theorem bitsOfBytes_zeros (n : Nat) :
    bitsOfBytes (List.replicate n 0) = List.replicate (8 * n) false := by
  induction n with
  | zero => rfl
  | succ n ih =>
    have hzero : numberBits 8 (0 : UInt8).toNat = List.replicate 8 false := by decide
    rw [List.replicate_succ, bitsOfBytes_cons, ih, hzero, List.replicate_append_replicate]
    congr 1
    omega

theorem numberBits_byte {bits : List Bool} (h : bits.length ≤ 8) :
    numberBits 8 (UInt8.ofNat (bitsNumber bits)).toNat =
      bits ++ List.replicate (8 - bits.length) false := by
  have hlt : bitsNumber bits < 256 :=
    (bitsNumber_lt bits).trans_le (Nat.pow_le_pow_right (by decide) h)
  rw [UInt8.toNat_ofNat', Nat.mod_eq_of_lt hlt, numberBits_bitsNumber h]

def filler (n : Nat) : List Bool := List.replicate ((8 - n % 8) % 8) false

theorem bitsOfBytes_packBits (bits : List Bool) :
    bitsOfBytes (packBits bits) = bits ++ filler bits.length := by
  fun_induction packBits bits with
  | case1 a b c d e f g h rest ih =>
    have hfiller : filler (a :: b :: c :: d :: e :: f :: g :: h :: rest).length =
        filler rest.length := by
      simp only [filler, List.length_cons]
      congr 1
      omega
    rw [bitsOfBytes_cons, ih, numberBits_byte (by simp), hfiller]
    simp
  | case2 => rfl
  | case3 bits hfull hne =>
    have hpos : bits.length ≠ 0 := by simpa using hne
    have hlt : bits.length < 8 := by
      by_contra hge
      rcases bits with _ | ⟨a, _ | ⟨b, _ | ⟨c, _ | ⟨d, _ | ⟨e, _ | ⟨f, _ | ⟨g, _ | ⟨h, rest⟩⟩⟩⟩⟩⟩⟩⟩
      all_goals first
        | exact hfull _ _ _ _ _ _ _ _ _ rfl
        | simp at hge
    have hfiller : filler bits.length = List.replicate (8 - bits.length) false := by
      rw [filler, Nat.mod_eq_of_lt hlt, Nat.mod_eq_of_lt (by omega)]
    rw [bitsOfBytes_cons, numberBits_byte hlt.le, hfiller]
    simp [bitsOfBytes]

end DiagramDoc.Deflate
