import DiagramDoc.Deflate.Match
import DiagramDoc.Proofs.Deflate.Tokens

/-! # A copy that is found is a copy

The chains only tell where to look. Of a chain it matters that it leads back, so that a search stays
in front of its own position; the bytes of a copy are compared before it is taken.
-/

namespace DiagramDoc.Deflate

open Inflate

/-- A copy of bytes of the text at `pos`, from within the window and in front of the position. -/
structure Found.IsCopy (data : Array UInt8) (pos window : Nat) (f : Found) : Prop where
  one_le : 1 ≤ f.distance
  distance_le : f.distance ≤ pos
  distance_le_window : f.distance ≤ window
  three_le : 3 ≤ f.length
  length_le_max : f.length ≤ maxLength
  fits : pos + f.length ≤ data.size
  same : ∀ i < f.length, byteAt data (pos - f.distance + i) = byteAt data (pos + i)

/-! ### The chains lead back -/

def LeadsBack (links : Array Nat) : Prop :=
  ∀ i, links.getD i 0 ≠ 0 → links.getD i 0 < i

structure Chains.IsBuilt (chains : Chains) (i : Nat) : Prop where
  size_eq : chains.links.size = i
  latest_lt : ∀ h, chains.latest.getD h 0 ≠ 0 → chains.latest.getD h 0 < i
  leadsBack : LeadsBack chains.links

theorem Chains.IsBuilt.enter {chains : Chains} {i : Nat} (data : Array UInt8)
    (h : chains.IsBuilt i) : (chains.enter data i).IsBuilt (i + 1) where
  size_eq := by rw [Chains.enter, Array.size_push, h.size_eq]
  latest_lt := by
    intro hash hne
    simp only [Chains.enter, Array.getD_eq_getD_getElem?, Array.set!_eq_setIfInBounds,
      Array.getElem?_setIfInBounds] at hne ⊢
    by_cases hsame : hashAt data i = hash
    · rw [if_pos hsame] at hne ⊢
      split <;> simp
    · rw [if_neg hsame] at hne ⊢
      have hlt := h.latest_lt hash
      rw [Array.getD_eq_getD_getElem?] at hlt
      exact (hlt hne).trans (Nat.lt_succ_self i)
  leadsBack := by
    intro j hne
    simp only [Chains.enter, Array.getD_eq_getD_getElem?, Array.getElem?_push, h.size_eq]
      at hne ⊢
    by_cases hj : j = i
    · rw [if_pos hj] at hne ⊢
      rw [hj]
      have hlt := h.latest_lt (hashAt data i)
      rw [Array.getD_eq_getD_getElem?] at hlt
      exact hlt hne
    · rw [if_neg hj] at hne ⊢
      have hlt := h.leadsBack j
      rw [Array.getD_eq_getD_getElem?] at hlt
      exact hlt hne

theorem leadsBack_links (data : Array UInt8) : LeadsBack (links data) := by
  have hbuilt (n : Nat) : ((List.range n).foldl (Chains.enter data)
      ⟨.replicate 0x8000 0, #[]⟩).IsBuilt n := by
    induction n with
    | zero =>
      refine ⟨rfl, ?_, ?_⟩
      · intro h hne
        rw [List.range_zero, List.foldl_nil, Array.getD_eq_getD_getElem?,
          Array.getElem?_replicate] at hne
        split at hne <;> exact absurd rfl hne
      · intro i hne
        exact absurd rfl hne
    | succ n ih =>
      rw [List.range_succ, List.foldl_append]
      exact ih.enter data
  exact (hbuilt _).leadsBack

/-! ### The search -/

theorem commonLength_le (data : Array UInt8) (p q limit : Nat) :
    commonLength data p q limit ≤ limit := by
  fun_induction commonLength data p q limit with
  | case1 => exact Nat.le_refl 0
  | case2 p q limit hsame ih => exact Nat.succ_le_succ ih
  | case3 p q limit hdiffer => exact Nat.zero_le _

theorem byteAt_eq_of_lt_commonLength {data : Array UInt8} {p q limit i : Nat}
    (h : i < commonLength data p q limit) : byteAt data (p + i) = byteAt data (q + i) := by
  fun_induction commonLength data p q limit generalizing i with
  | case1 => exact absurd h (Nat.not_lt_zero i)
  | case2 p q limit hsame ih =>
    cases i with
    | zero => exact hsame
    | succ i =>
      have hrest := ih (Nat.lt_of_succ_lt_succ h)
      rwa [Nat.add_right_comm, Nat.add_right_comm q, Nat.add_assoc p, Nat.add_assoc q] at hrest
  | case3 p q limit hdiffer => exact absurd h (Nat.not_lt_zero i)

namespace Search

variable {s : Search}

def ProbeIsBack (s : Search) (p : Nat) : Probe → Prop
  | .finished => True
  | .candidate q => q < s.pos ∧ s.pos - q ≤ s.window
  | .further q => q ≤ p

theorem probeIsBack_probe (hlinks : LeadsBack s.links) (best steps : Nat) {p : Nat}
    (hp : p ≤ s.pos) : s.ProbeIsBack p (s.probe best steps p) := by
  induction steps generalizing p with
  | zero => exact Nat.le_refl p
  | succ steps ih =>
    rw [probe]
    by_cases hend : s.links.getD p 0 = 0 ∨ s.window < s.pos - s.links.getD p 0
    · simp only [if_pos hend]
      trivial
    · rw [not_or, Nat.not_lt] at hend
      have hback := hlinks p hend.1
      simp only [hend.1, Nat.not_lt.2 hend.2, or_self, if_false]
      split
      · exact ⟨hback.trans_le hp, hend.2⟩
      · have hrest := ih (hback.le.trans hp)
        cases hprobe : s.probe best steps (s.links.getD p 0) with
        | finished => trivial
        | candidate q =>
          rw [hprobe] at hrest
          exact hrest
        | further q =>
          rw [hprobe] at hrest
          exact Nat.le_trans hrest hback.le

/-- What a search for more than `least` bytes may give: nothing, or a longer copy. -/
def Improves (s : Search) (least : Nat) (f : Found) : Prop :=
  f = ⟨0, least⟩ ∨ f.IsCopy s.data s.pos s.window ∧ least < f.length

theorem Improves.le_length {least : Nat} {f : Found} (h : s.Improves least f) :
    least ≤ f.length := by
  rcases h with rfl | h
  · exact Nat.le_refl least
  · exact h.2.le

theorem improves_commonLength {least p : Nat} {best : Found} (hleast : 2 ≤ least)
    (hmax : s.limit ≤ maxLength) (hfits : s.pos + s.limit ≤ s.data.size)
    (hbest : s.Improves least best) (hback : p < s.pos ∧ s.pos - p ≤ s.window)
    (hlong : best.length < commonLength s.data p s.pos s.limit) :
    s.Improves least ⟨s.pos - p, commonLength s.data p s.pos s.limit⟩ := by
  have hle := commonLength_le s.data p s.pos s.limit
  have hlength := hbest.le_length
  refine Or.inr ⟨?_, Nat.lt_of_le_of_lt hlength hlong⟩
  exact {
    one_le := Nat.sub_pos_of_lt hback.1
    distance_le := Nat.sub_le _ _
    distance_le_window := hback.2
    three_le := by dsimp only; omega
    length_le_max := hle.trans hmax
    fits := by dsimp only; omega
    same := fun i hi => by
      rw [Nat.sub_sub_self hback.1.le]
      exact byteAt_eq_of_lt_commonLength hi }

theorem improves_rounds (hlinks : LeadsBack s.links) {least : Nat} (hleast : 2 ≤ least)
    (hmax : s.limit ≤ maxLength) (hfits : s.pos + s.limit ≤ s.data.size) (n : Nat) {p : Nat}
    {best : Found} (hp : p ≤ s.pos) (hbest : s.Improves least best) :
    s.Improves least (s.rounds n p best) := by
  induction n generalizing p best with
  | zero => exact hbest
  | succ n ih =>
    have hprobe := probeIsBack_probe hlinks best.length 3 hp
    rw [rounds]
    split
    · exact hbest
    · next q heq =>
      rw [heq] at hprobe
      exact ih (Nat.le_trans hprobe hp) hbest
    · next q heq =>
      rw [heq] at hprobe
      have hq : q ≤ s.pos := hprobe.1.le
      split
      · dsimp only
        split
        · next hlong =>
          have hcopy := improves_commonLength hleast hmax hfits hbest hprobe hlong
          split
          · exact hcopy
          · exact ih hq hcopy
        · exact ih hq hbest
      · exact ih hq hbest

/-- **A search gives nothing, or a copy longer than the one at hand.** -/
theorem improves_run (hlinks : LeadsBack s.links) {least : Nat} (hleast : 2 ≤ least)
    (hmax : s.limit ≤ maxLength) (hfits : s.pos + s.limit ≤ s.data.size) :
    s.Improves least (s.run least) := by
  rw [run]
  split
  · exact Or.inl rfl
  · exact improves_rounds hlinks hleast hmax hfits _ (Nat.le_refl _) (Or.inl rfl)

end Search

/-! ### Following a copy -/

theorem byteAt_eq_getElem {data : Array UInt8} {i : Nat} (h : i < data.size) :
    byteAt data i = data[i] := by
  rw [byteAt, Array.getD_eq_getD_getElem?, Array.getElem?_eq_getElem h, Option.getD_some]

theorem take_succ_toList {data : Array UInt8} {i : Nat} (h : i < data.size) :
    data.toList.take (i + 1) = data.toList.take i ++ [byteAt data i] := by
  rw [List.take_succ_eq_append_getElem (by simpa using h), byteAt_eq_getElem h,
    Array.getElem_toList]

theorem copyBack_take {data : Array UInt8} {distance : Nat} (hone : 1 ≤ distance) {length pos : Nat}
    (hback : distance ≤ pos) (hfits : pos + length ≤ data.size)
    (hsame : ∀ i < length, byteAt data (pos - distance + i) = byteAt data (pos + i)) :
    copyBack distance length (data.toList.take pos) = some (data.toList.take (pos + length)) := by
  induction length generalizing pos with
  | zero => rfl
  | succ length ih =>
    have hlen : (data.toList.take pos).length = pos := by
      rw [List.length_take, Array.length_toList]
      omega
    have hbyte : (data.toList.take pos)[pos - distance]? = some (byteAt data pos) := by
      have hfirst := hsame 0 (Nat.succ_pos length)
      rw [Nat.add_zero, Nat.add_zero] at hfirst
      rw [List.getElem?_take_of_lt (by omega), Array.getElem?_toList,
        Array.getElem?_eq_getElem (by omega), ← byteAt_eq_getElem, hfirst]
    have hnext : ∀ i < length,
        byteAt data (pos + 1 - distance + i) = byteAt data (pos + 1 + i) := by
      intro i hi
      have hsucc := hsame (i + 1) (Nat.succ_lt_succ hi)
      rwa [show pos - distance + (i + 1) = pos + 1 - distance + i by omega,
        show pos + (i + 1) = pos + 1 + i by omega] at hsucc
    have hrest := ih (by omega) (by omega) hnext
    rw [copyBack, hlen, if_pos hback, hbyte]
    simp only [Option.bind_eq_bind, Option.bind_some]
    rw [← take_succ_toList (by omega), hrest]
    congr 2
    omega

theorem Found.IsCopy.expand {data : Array UInt8} {pos window : Nat} {f : Found}
    (h : f.IsCopy data pos window) :
    (Token.copy f.length f.distance).expand (data.toList.take pos) =
      some (data.toList.take (pos + f.length)) :=
  copyBack_take h.one_le h.distance_le h.fits h.same

theorem Found.IsCopy.isWritable {data : Array UInt8} {pos window : Nat} {f : Found}
    (h : f.IsCopy data pos window) (hwindow : window ≤ 32768) :
    (Token.copy f.length f.distance).IsWritable :=
  ⟨h.three_le, h.length_le_max, h.one_le, h.distance_le_window.trans hwindow⟩

end DiagramDoc.Deflate
