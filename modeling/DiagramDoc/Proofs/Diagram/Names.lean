import DiagramDoc.Proofs.Text.Spans
import DiagramDoc.Unicode.Word

/-! # Names and blanks

Both dialects of Mermaid have names of word characters with blanks between them. No blank is a
word character, so each stops the other.
-/

namespace DiagramDoc

open Text Unicode

def IsBlanks (cs : List Char) : Prop := ∀ c ∈ cs, isBlank c = true

def IsGap (cs : List Char) : Prop := cs ≠ [] ∧ IsBlanks cs

def IsName (cs : List Char) : Prop := cs ≠ [] ∧ ∀ c ∈ cs, isWord c = true

variable {cs rest run : List Char}

theorem isWord_of_isBlank {c : Char} (h : isBlank c = true) : isWord c = false := by
  rw [isBlank, Bool.or_eq_true, beq_iff_eq, beq_iff_eq] at h
  rcases h with rfl | rfl <;> decide

theorem isBlank_of_isWord {c : Char} (h : isWord c = true) : isBlank c = false := by
  by_contra hblank
  rw [Bool.not_eq_false] at hblank
  rw [isWord_of_isBlank hblank] at h
  cases h

theorem isWord_toLower (c : Char) : isWord c.toLower = isWord c := by
  by_cases hcapital : 65 ≤ c.toNat ∧ c.toNat ≤ 90
  · have hall : ∀ n < 26, isWord (Char.ofNat (65 + n)).toLower = isWord (Char.ofNat (65 + n)) := by
      decide
    have hc := hall (c.toNat - 65) (by omega)
    rwa [Nat.add_sub_cancel' hcapital.1, Char.ofNat_toNat] at hc
  · have hsame : c.toLower = c := dif_neg hcapital
    rw [hsame]

theorem isName_asciiLower_iff : IsName (asciiLower cs) ↔ IsName cs := by
  rw [IsName, IsName, asciiLower, Ne, List.map_eq_nil_iff, List.forall_mem_map]
  simp only [isWord_toLower]

/-! ### What stops a run -/

theorem IsName.stops {p : Char → Bool} (hp : ∀ c, isWord c = true → p c = false)
    (h : IsName run) (rest : List Char) : Stops p (run ++ rest) := by
  obtain ⟨c, run, rfl⟩ := List.exists_cons_of_ne_nil h.1
  exact stops_cons.2 (hp c (h.2 c List.mem_cons_self))

theorem IsName.stops_isBlank (h : IsName run) (rest : List Char) : Stops isBlank (run ++ rest) :=
  h.stops (fun _ => isBlank_of_isWord) rest

theorem IsGap.stops_isWord (h : IsGap run) (rest : List Char) : Stops isWord (run ++ rest) := by
  obtain ⟨c, run, rfl⟩ := List.exists_cons_of_ne_nil h.1
  exact stops_cons.2 (isWord_of_isBlank (h.2 c List.mem_cons_self))

theorem IsBlanks.stops_isWord (h : IsBlanks run) (hrest : Stops isWord rest) :
    Stops isWord (run ++ rest) := by
  by_cases hnil : run = []
  · rwa [hnil]
  · exact IsGap.stops_isWord ⟨hnil, h⟩ rest

end DiagramDoc
