import DiagramDoc.PlantUml.Encoding
import DiagramDoc.Proofs.Deflate.Compression

/-! # An encoded source is not lost

A server that knows the digits and the format of compressed streams gets the source back from its
path segment.
-/

namespace DiagramDoc.PlantUml

open Text Deflate Inflate

/-! ### Reading digits -/

def readBase64 : List Char → Option (List UInt8)
  | [] => some []
  | p :: q :: r :: s :: rest => do
    let a ← alphabet.idxOf? p
    let b ← alphabet.idxOf? q
    let c ← alphabet.idxOf? r
    let d ← alphabet.idxOf? s
    let n := ((a * 64 + b) * 64 + c) * 64 + d
    let bytes ← readBase64 rest
    some (UInt8.ofNat (n / 65536) :: UInt8.ofNat (n / 256) :: UInt8.ofNat n :: bytes)
  | _ => none

theorem length_alphabet : alphabet.length = 64 := by decide

theorem digit_mem_alphabet {n : Nat} (h : n < 64) : digit n ∈ alphabet := by
  rw [digit, List.getD_eq_getElem?_getD, List.getElem?_eq_getElem (by rwa [length_alphabet])]
  exact List.getElem_mem _

theorem idxOf?_digit : ∀ n < 64, alphabet.idxOf? (digit n) = some n := by decide

theorem group_spec (a b c : UInt8) :
    ∃ p < 64, ∃ q < 64, ∃ r < 64, ∃ s < 64,
      group a b c = [digit p, digit q, digit r, digit s] ∧
        ((p * 64 + q) * 64 + r) * 64 + s = (a.toNat * 256 + b.toNat) * 256 + c.toNat := by
  have ha : a.toNat < 256 := a.toNat_lt
  have hb : b.toNat < 256 := b.toNat_lt
  have hc : c.toNat < 256 := c.toNat_lt
  refine ⟨_, ?_, _, ?_, _, ?_, _, ?_, rfl, ?_⟩ <;> omega

theorem mem_alphabet_of_mem_group {a b c : UInt8} {x : Char} (h : x ∈ group a b c) :
    x ∈ alphabet := by
  obtain ⟨p, hp, q, hq, r, hr, s, hs, heq, -⟩ := group_spec a b c
  rw [heq] at h
  simp only [List.mem_cons, List.not_mem_nil, or_false] at h
  rcases h with rfl | rfl | rfl | rfl
  · exact digit_mem_alphabet hp
  · exact digit_mem_alphabet hq
  · exact digit_mem_alphabet hr
  · exact digit_mem_alphabet hs

theorem mem_alphabet_of_mem_base64 {bs : List UInt8} {x : Char} (h : x ∈ base64 bs) :
    x ∈ alphabet := by
  fun_induction base64 bs with
  | case1 => cases h
  | case2 a => exact mem_alphabet_of_mem_group h
  | case3 a b => exact mem_alphabet_of_mem_group h
  | case4 a b c rest ih =>
    rcases List.mem_append.1 h with h | h
    · exact mem_alphabet_of_mem_group h
    · exact ih h

theorem readBase64_group (a b c : UInt8) (digits : List Char) :
    readBase64 (group a b c ++ digits) =
      (readBase64 digits).map fun bytes => a :: b :: c :: bytes := by
  obtain ⟨p, hp, q, hq, r, hr, s, hs, heq, hn⟩ := group_spec a b c
  have hb : b.toNat < 256 := b.toNat_lt
  have hc : c.toNat < 256 := c.toNat_lt
  have hbyte (x : UInt8) (n : Nat) (h : n % 256 = x.toNat) : UInt8.ofNat n = x := by
    rw [← UInt8.toNat_inj, UInt8.toNat_ofNat', h]
  have hfirst := hbyte a (((a.toNat * 256 + b.toNat) * 256 + c.toNat) / 65536) (by
    have ha : a.toNat < 256 := a.toNat_lt
    omega)
  have hsecond := hbyte b (((a.toNat * 256 + b.toNat) * 256 + c.toNat) / 256) (by omega)
  have hthird := hbyte c ((a.toNat * 256 + b.toNat) * 256 + c.toNat) (by omega)
  rw [heq]
  simp only [List.cons_append, List.nil_append, readBase64, idxOf?_digit _ hp, idxOf?_digit _ hq,
    idxOf?_digit _ hr, idxOf?_digit _ hs, Option.bind_eq_bind, Option.bind_some, hn, hfirst,
    hsecond, hthird]
  cases readBase64 digits <;> rfl

/-- **Bytes are read back from their digits**, with the zero bytes that fill up the last group. -/
theorem readBase64_base64 (bs : List UInt8) :
    ∃ padding < 3, readBase64 (base64 bs) = some (bs ++ List.replicate padding 0) := by
  fun_induction base64 bs with
  | case1 => exact ⟨0, by decide, rfl⟩
  | case2 a =>
    refine ⟨2, by decide, ?_⟩
    rw [← List.append_nil (group a 0 0), readBase64_group]
    rfl
  | case3 a b =>
    refine ⟨1, by decide, ?_⟩
    rw [← List.append_nil (group a b 0), readBase64_group]
    rfl
  | case4 a b c rest ih =>
    obtain ⟨padding, hlt, hrest⟩ := ih
    refine ⟨padding, hlt, ?_⟩
    rw [readBase64_group, hrest]
    rfl

/-! ### The compressed form -/

/-- **A compressed source is read back.** Its segment is made of whole groups of digits; the digits
stand for a stream that describes the source, behind which are fewer than eight zero bits and fewer
than three zero bytes. -/
theorem exists_inflate_encode (source : String) :
    4 ∣ (Encoder.deflate.encode source).length ∧
      (∀ c ∈ (Encoder.deflate.encode source).toList, c ∈ alphabet) ∧
      ∃ stream, readBase64 (Encoder.deflate.encode source).toList = some stream ∧
        ∃ bits < 8, ∃ padding < 3,
          inflate stream = some (bytes source, List.replicate (bits + 8 * padding) false) := by
  have hsegment : (Encoder.deflate.encode source).toList = base64 (compress (bytes source)) := by
    rw [Encoder.encode, String.toList_ofList]
  refine ⟨?_, ?_, ?_⟩
  · rw [← String.length_toList, hsegment, length_base64]
    exact Nat.dvd_mul_left 4 _
  · rw [hsegment]
    exact fun c hc => mem_alphabet_of_mem_base64 hc
  · obtain ⟨padding, hpadding, hread⟩ := readBase64_base64 (compress (bytes source))
    have hstream := inflate_compress_append (bytes source) (List.replicate padding 0)
    rw [bitsOfBytes_zeros, filler, List.replicate_append_replicate] at hstream
    rw [hsegment]
    exact ⟨_, hread, _, Nat.mod_lt _ (by decide), padding, hpadding, hstream⟩

end DiagramDoc.PlantUml
