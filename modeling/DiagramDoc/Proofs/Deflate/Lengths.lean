import DiagramDoc.Deflate.Huffman
import Mathlib.Tactic
import Mathlib.Data.List.Perm.Basic

/-! # Limited word lengths fill a code

The depths of a tree's leaves leave no room: a leaf at depth `d` takes one part in `2 ^ d`. Cutting
the depths at a limit takes more room than there is, and each step that gives back takes away one
unit of it. Two bounds keep that going to the end. The words shorter than the limit alone never
need more than all the room, so as long as too much is taken there is a word at the limit to give
back; and there are no more symbols than words at the limit, so there is a shorter word that can
grow.
-/

namespace DiagramDoc.Deflate

/-- The room that words of these lengths take, in words of `limit` bits. -/
def load (limit : Nat) (lengths : List Nat) : Nat := (lengths.map fun l => 2 ^ (limit - l)).sum

@[simp]
theorem load_nil (limit : Nat) : load limit [] = 0 := rfl

theorem load_cons (limit l : Nat) (lengths : List Nat) :
    load limit (l :: lengths) = 2 ^ (limit - l) + load limit lengths := by
  simp [load]

theorem load_append (limit : Nat) (as bs : List Nat) :
    load limit (as ++ bs) = load limit as + load limit bs := by
  simp [load]

theorem load_replicate (limit n l : Nat) :
    load limit (List.replicate n l) = n * 2 ^ (limit - l) := by
  simp [load]

theorem load_perm {limit : Nat} {as bs : List Nat} (h : as.Perm bs) :
    load limit as = load limit bs :=
  (h.map _).sum_eq

theorem load_zero (lengths : List Nat) : load 0 lengths = lengths.length := by
  simp [load]

theorem load_map_succ (limit : Nat) (lengths : List Nat) :
    load (limit + 1) (lengths.map (· + 1)) = load limit lengths := by
  simp [load, Function.comp_def]

/-! ### Trees -/

/-- The depths of the leaves of a binary tree, from left to right. -/
inductive IsTree : List Nat → Prop where
  | leaf : IsTree [0]
  | node {left right : List Nat} :
    IsTree left → IsTree right → IsTree ((left ++ right).map (· + 1))

namespace IsTree

theorem ne_nil {depths : List Nat} (h : IsTree depths) : depths ≠ [] := by
  induction h with
  | leaf => simp
  | node _ _ ihl _ => simp [ihl]

theorem one_le {depths : List Nat} (h : IsTree depths) (hlen : 2 ≤ depths.length) :
    ∀ d ∈ depths, 1 ≤ d := by
  cases h with
  | leaf => simp at hlen
  | node _ _ =>
    intro d hd
    obtain ⟨e, _, rfl⟩ := List.mem_map.1 hd
    exact Nat.le_add_left 1 e

theorem map_min_succ (limit : Nat) (depths : List Nat) :
    (depths.map (· + 1)).map (min · (limit + 1)) = (depths.map (min · limit)).map (· + 1) := by
  simp [Function.comp_def, Nat.add_min_add_right]

theorem le_load_map_min {depths : List Nat} (h : IsTree depths) (limit : Nat) :
    2 ^ limit ≤ load limit (depths.map (min · limit)) := by
  induction h generalizing limit with
  | leaf => simp [load]
  | @node left right hl hr ihl ihr =>
    cases limit with
    | zero =>
      have hpos : 0 < left.length := List.length_pos_iff.2 hl.ne_nil
      rw [load_zero, List.length_map, List.length_map, List.length_append]
      omega
    | succ limit =>
      rw [map_min_succ, load_map_succ]
      calc 2 ^ (limit + 1) = 2 ^ limit + 2 ^ limit := by rw [Nat.pow_succ, Nat.mul_two]
        _ ≤ load limit (left.map (min · limit)) + load limit (right.map (min · limit)) :=
          Nat.add_le_add (ihl limit) (ihr limit)
        _ = load limit ((left ++ right).map (min · limit)) := by rw [List.map_append, load_append]

theorem load_filter_map_min_le {depths : List Nat} (h : IsTree depths) (limit : Nat) :
    load limit ((depths.map (min · limit)).filter (· < limit)) ≤ 2 ^ limit := by
  induction h generalizing limit with
  | leaf =>
    cases limit with
    | zero => simp [load]
    | succ limit => simp [load]
  | @node left right hl hr ihl ihr =>
    cases limit with
    | zero => simp
    | succ limit =>
      have hfilter : (((left ++ right).map (min · limit)).map (· + 1)).filter (· < limit + 1) =
          ((left.map (min · limit)).filter (· < limit) ++
            (right.map (min · limit)).filter (· < limit)).map (· + 1) := by
        simp [List.filter_map, Function.comp_def]
      rw [map_min_succ, hfilter, load_map_succ]
      calc load limit ((left.map (min · limit)).filter (· < limit) ++
            (right.map (min · limit)).filter (· < limit))
          = load limit ((left.map (min · limit)).filter (· < limit)) +
              load limit ((right.map (min · limit)).filter (· < limit)) := load_append _ _ _
        _ ≤ 2 ^ limit + 2 ^ limit := Nat.add_le_add (ihl limit) (ihr limit)
        _ = 2 ^ (limit + 1) := by rw [Nat.pow_succ, Nat.mul_two]

end IsTree

theorem perm_insertPart (part : Part) (parts : List Part) :
    (insertPart part parts).Perm (part :: parts) := by
  induction parts with
  | nil => exact List.Perm.refl _
  | cons q rest ih =>
    rw [insertPart]
    split
    · exact (ih.cons q).trans (List.Perm.swap part q rest)
    · exact List.Perm.refl _

theorem isTree_treeDepths {parts : List Part} (hne : parts ≠ [])
    (h : ∀ part ∈ parts, IsTree part.depths) : IsTree (treeDepths parts) := by
  fun_induction treeDepths parts with
  | case1 => exact absurd rfl hne
  | case2 part => exact h part (by simp)
  | case3 a b rest ih =>
    have hperm := perm_insertPart (a.under b) rest
    refine ih ?_ ?_
    · intro hnil
      simpa [hnil] using hperm.length_eq
    · intro part hpart
      rcases List.mem_cons.1 (hperm.mem_iff.1 hpart) with rfl | hmem
      · exact .node (h a (by simp)) (h b (by simp))
      · exact h part (by simp [hmem])

theorem length_treeDepths (parts : List Part) :
    (treeDepths parts).length = (parts.map (·.depths.length)).sum := by
  fun_induction treeDepths parts with
  | case1 => rfl
  | case2 part => simp
  | case3 a b rest ih =>
    have hperm := (perm_insertPart (a.under b) rest).map (·.depths.length)
    rw [ih, hperm.sum_eq]
    simp [Part.under, Nat.add_assoc]

/-! ### Counts of lengths -/

theorem mem_expandCounts {limit l : Nat} {counts : List Nat} (hlen : counts.length ≤ limit)
    (hl : l ∈ expandCounts limit counts) : 1 ≤ l ∧ l ≤ limit := by
  induction counts generalizing limit with
  | nil => simp [expandCounts] at hl
  | cons n rest ih =>
    rw [List.length_cons] at hlen
    rw [expandCounts, List.mem_append, List.mem_replicate] at hl
    rcases hl with ⟨_, rfl⟩ | hl
    · omega
    · have := ih (by omega) hl
      omega

theorem length_expandCounts (limit : Nat) (counts : List Nat) :
    (expandCounts limit counts).length = counts.sum := by
  induction counts generalizing limit with
  | nil => rfl
  | cons n rest ih => simp [expandCounts, ih]

theorem load_expandCounts {limit most : Nat} {counts : List Nat} (hlen : counts.length ≤ limit)
    (hmost : limit ≤ most) :
    load most (expandCounts limit counts) = room (2 ^ (most - limit)) counts := by
  induction counts generalizing limit with
  | nil => rfl
  | cons n rest ih =>
    rw [List.length_cons] at hlen
    have hunit : 2 ^ (most - (limit - 1)) = 2 * 2 ^ (most - limit) := by
      rw [← Nat.pow_succ']
      congr 1
      omega
    rw [expandCounts, load_append, load_replicate, ih (by omega) (by omega), room, hunit]

theorem perm_expandCounts {limit : Nat} {lengths : List Nat} :
    (expandCounts limit (((List.range limit).map fun i => lengths.count (i + 1)).reverse)).Perm
      (lengths.filter fun l => 1 ≤ l ∧ l ≤ limit) := by
  have hcount (a limit : Nat) : (lengths.filter fun l => 1 ≤ l ∧ l ≤ limit).count a =
      if 1 ≤ a ∧ a ≤ limit then lengths.count a else 0 := by
    split
    · next ha => exact List.count_filter (by simpa using ha)
    · next ha =>
      rw [List.count_eq_zero, List.mem_filter]
      rintro ⟨_, hmem⟩
      exact ha (by simpa using hmem)
  rw [List.perm_iff_count]
  intro a
  induction limit with
  | zero =>
    rw [hcount, if_neg (by omega)]
    rfl
  | succ limit ih =>
    rw [hcount] at ih ⊢
    rw [List.range_succ, List.map_append, List.reverse_append]
    simp only [List.map_cons, List.map_nil, List.reverse_cons, List.reverse_nil, List.nil_append,
      List.singleton_append, expandCounts, Nat.add_sub_cancel, List.count_append, ih,
      List.count_replicate, beq_iff_eq]
    by_cases ha : a = limit + 1
    · subst ha
      simp
    · rw [if_neg (Ne.symm ha), Nat.zero_add]
      exact if_congr (by omega) rfl rfl

/-! ### Giving room back -/

/-- A word that grows makes one more word and takes no more room; the shorter words take no more
room than before. -/
theorem lengthenOne_cons (unit n : Nat) {rest : List Nat} (h : ∃ m ∈ rest, 0 < m) :
    ∃ n' rest', lengthenOne (n :: rest) = n' :: rest' ∧ rest'.length = rest.length ∧
      n' + rest'.sum = n + rest.sum + 1 ∧
      n' * unit + room (2 * unit) rest' = n * unit + room (2 * unit) rest ∧
      room (2 * unit) rest' ≤ room (2 * unit) rest := by
  induction rest generalizing unit n with
  | nil => simp at h
  | cons shorter rest ih =>
    rw [lengthenOne]
    split
    · next hpos =>
      obtain ⟨m, rfl⟩ : ∃ m, shorter = m + 1 := ⟨shorter - 1, by omega⟩
      refine ⟨n + 2, m :: rest, rfl, rfl, ?_, ?_, ?_⟩
      · simp only [List.sum_cons]
        omega
      · simp only [room]
        ring
      · simp only [room]
        have : m * (2 * unit) ≤ (m + 1) * (2 * unit) :=
          Nat.mul_le_mul_right _ (Nat.le_succ m)
        omega
    · next hzero =>
      obtain rfl : shorter = 0 := by omega
      have hrest : ∃ m ∈ rest, 0 < m := by simpa using h
      obtain ⟨n', rest', heq, hlen, hsum, hroom, -⟩ := ih (2 * unit) 0 hrest
      refine ⟨n, n' :: rest', by rw [heq], by simp [hlen], ?_, ?_, ?_⟩
      · simp only [List.sum_cons]
        omega
      · simp only [room]
        omega
      · simp only [room]
        omega

theorem room_eq_zero {unit : Nat} {counts : List Nat} (h : ∀ m ∈ counts, m = 0) :
    room unit counts = 0 := by
  induction counts generalizing unit with
  | nil => rfl
  | cons n rest ih =>
    have hrest : ∀ m ∈ rest, m = 0 := fun m hm => h m (by simp [hm])
    rw [room, ih hrest, h n (by simp)]
    simp

/-- What giving back needs, and keeps: there are no more words than words of `limit` bits, and the
words shorter than that fit. -/
structure CanGiveBack (limit : Nat) (counts : List Nat) : Prop where
  length_eq : counts.length = limit
  sum_le : counts.sum ≤ 2 ^ limit
  room_tail_le : room 2 counts.tail ≤ 2 ^ limit

theorem CanGiveBack.giveBack {limit : Nat} {counts : List Nat} (h : CanGiveBack limit counts)
    (hexcess : 2 ^ limit < room 1 counts) :
    CanGiveBack limit (giveBack counts) ∧ (Deflate.giveBack counts).sum = counts.sum ∧
      room 1 (Deflate.giveBack counts) + 1 = room 1 counts := by
  cases counts with
  | nil => simp [room] at hexcess
  | cons n rest =>
    obtain ⟨hlen, hsum, htail⟩ := h
    simp only [List.length_cons, List.sum_cons, List.tail_cons, room, Nat.mul_one] at *
    -- too much room is taken, and not by the shorter words
    obtain ⟨m, rfl⟩ : ∃ m, n = m + 1 := ⟨n - 1, by omega⟩
    have hshorter : ∃ k ∈ rest, 0 < k := by
      by_contra hnone
      push Not at hnone
      have hzero : room 2 rest = 0 := room_eq_zero fun k hk => Nat.le_zero.1 (hnone k hk)
      omega
    obtain ⟨n', rest', heq, hlen', hsum', hroom', hle'⟩ := lengthenOne_cons 1 m hshorter
    have hgive : Deflate.giveBack ((m + 1) :: rest) = n' :: rest' := heq
    simp only [Nat.mul_one] at hroom' hle'
    rw [hgive]
    refine ⟨⟨by simp [hlen', hlen], ?_, ?_⟩, ?_, ?_⟩
    · simp only [List.sum_cons]
      omega
    · simp only [List.tail_cons]
      omega
    · simp only [List.sum_cons]
      omega
    · simp only [room, Nat.mul_one]
      omega

theorem CanGiveBack.repeat {limit : Nat} {counts : List Nat} (h : CanGiveBack limit counts)
    {k : Nat} (hk : k ≤ room 1 counts - 2 ^ limit) :
    CanGiveBack limit (Nat.repeat Deflate.giveBack k counts) ∧
      (Nat.repeat Deflate.giveBack k counts).sum = counts.sum ∧
      room 1 (Nat.repeat Deflate.giveBack k counts) + k = room 1 counts := by
  induction k with
  | zero => exact ⟨h, rfl, rfl⟩
  | succ k ih =>
    obtain ⟨hcan, hsum, hroom⟩ := ih (by omega)
    obtain ⟨hcan', hsum', hroom'⟩ := hcan.giveBack (by omega)
    rw [Nat.repeat]
    exact ⟨hcan', hsum'.trans hsum, by omega⟩

/-- The lengths of the words for leaves at these depths, none longer than `limit`. -/
def limitedLengths (limit : Nat) (depths : List Nat) : List Nat :=
  let counted := lengthCounts limit depths
  expandCounts limit (Nat.repeat giveBack (room 1 counted - Nat.pow 2 limit) counted)

theorem length_lengthCounts (limit : Nat) (depths : List Nat) :
    (lengthCounts limit depths).length = limit := by
  simp [lengthCounts]

theorem perm_expandCounts_lengthCounts {limit : Nat} (hlimit : 1 ≤ limit) (depths : List Nat) :
    (expandCounts limit (lengthCounts limit depths)).Perm
      (depths.map fun d => max 1 (min d limit)) := by
  have hall : (depths.map fun d => max 1 (min d limit)).filter (fun l => 1 ≤ l ∧ l ≤ limit) =
      depths.map fun d => max 1 (min d limit) := by
    rw [List.filter_eq_self]
    intro l hl
    obtain ⟨d, _, rfl⟩ := List.mem_map.1 hl
    simp
    omega
  rw [← hall]
  exact perm_expandCounts

theorem perm_limitedLengths {limit : Nat} (hlimit : 1 ≤ limit) {depths : List Nat}
    (hfits : load limit (depths.map fun d => max 1 (min d limit)) ≤ 2 ^ limit) :
    (limitedLengths limit depths).Perm (depths.map fun d => max 1 (min d limit)) := by
  have hperm := perm_expandCounts_lengthCounts hlimit depths
  have hload := load_expandCounts (length_lengthCounts limit depths).le (Nat.le_refl limit)
  rw [Nat.sub_self, Nat.pow_zero, load_perm hperm] at hload
  have hexcess : room 1 (lengthCounts limit depths) - Nat.pow 2 limit = 0 := by
    rw [← hload]
    exact Nat.sub_eq_zero_of_le hfits
  simp only [limitedLengths, hexcess]
  exact hperm

theorem canGiveBack_lengthCounts {limit : Nat} {depths : List Nat} (hlimit : 1 ≤ limit)
    (htree : IsTree depths) (hlen : 2 ≤ depths.length) (hmany : depths.length ≤ 2 ^ limit) :
    CanGiveBack limit (lengthCounts limit depths) ∧ 2 ^ limit ≤ room 1 (lengthCounts limit depths) ∧
      (lengthCounts limit depths).sum = depths.length := by
  have hperm := perm_expandCounts_lengthCounts hlimit depths
  have hcut : (depths.map fun d => max 1 (min d limit)) = depths.map (min · limit) := by
    apply List.map_congr_left
    intro d hd
    have := htree.one_le hlen d hd
    omega
  rw [hcut] at hperm
  have hsum : (lengthCounts limit depths).sum = depths.length := by
    rw [← length_expandCounts limit, hperm.length_eq, List.length_map]
  have hroom : room 1 (lengthCounts limit depths) = load limit (depths.map (min · limit)) := by
    calc room 1 (lengthCounts limit depths)
        = room (2 ^ (limit - limit)) (lengthCounts limit depths) := by
          rw [Nat.sub_self, Nat.pow_zero]
      _ = load limit (expandCounts limit (lengthCounts limit depths)) :=
          (load_expandCounts (length_lengthCounts limit depths).le (Nat.le_refl limit)).symm
      _ = load limit (depths.map (min · limit)) := load_perm hperm
  refine ⟨⟨length_lengthCounts limit depths, hsum.trans_le hmany, ?_⟩, ?_, hsum⟩
  · cases hcounts : lengthCounts limit depths with
    | nil => simp [room]
    | cons n rest =>
      have hrest : rest.length ≤ limit - 1 := by
        have := length_lengthCounts limit depths
        rw [hcounts, List.length_cons] at this
        omega
      -- the tail stands for the leaves above the cut
      have hshort : (expandCounts (limit - 1) rest).Perm
          ((depths.map (min · limit)).filter (· < limit)) := by
        have hfilter := hperm.filter (· < limit)
        have hkeep : (expandCounts (limit - 1) rest).filter (· < limit) =
            expandCounts (limit - 1) rest := by
          rw [List.filter_eq_self]
          intro l hl
          have := mem_expandCounts hrest hl
          simp
          omega
        rw [hcounts, expandCounts, List.filter_append, hkeep] at hfilter
        simpa using hfilter
      have hload := load_expandCounts hrest (Nat.sub_le limit 1)
      rw [show limit - (limit - 1) = 1 by omega] at hload
      rw [List.tail_cons, ← Nat.pow_one 2, ← hload, load_perm hshort]
      exact htree.load_filter_map_min_le limit
  · rw [hroom]
    exact htree.le_load_map_min limit

/-- **Limited lengths make a code.** Every leaf has a length within the limit, and with two leaves
or more the lengths leave no room. -/
theorem limitedLengths_spec {limit : Nat} {depths : List Nat} (hlimit : 1 ≤ limit)
    (htree : IsTree depths) (hmany : depths.length ≤ 2 ^ limit) :
    (limitedLengths limit depths).length = depths.length ∧
      (∀ l ∈ limitedLengths limit depths, 1 ≤ l ∧ l ≤ limit) ∧
      (limitedLengths limit depths = [1] ∨ load limit (limitedLengths limit depths) = 2 ^ limit) := by
  by_cases hlen : 2 ≤ depths.length
  · obtain ⟨hcan, hroom, hsum⟩ := canGiveBack_lengthCounts hlimit htree hlen hmany
    obtain ⟨⟨hlen', -, -⟩, hsum', hroom'⟩ := hcan.repeat (Nat.le_refl _)
    have hload := load_expandCounts hlen'.le (Nat.le_refl limit)
    rw [Nat.sub_self, Nat.pow_zero] at hload
    refine ⟨?_, fun l hl => mem_expandCounts hlen'.le hl, Or.inr ?_⟩
    · exact (length_expandCounts limit _).trans (hsum'.trans hsum)
    · refine hload.trans ?_
      omega
  · cases htree with
    | leaf =>
      have hhalf : 2 ^ (limit - 1) ≤ 2 ^ limit :=
        Nat.pow_le_pow_right (by decide) (Nat.sub_le limit 1)
      have hone : limitedLengths limit [0] = [1] :=
        List.perm_singleton.1 (perm_limitedLengths hlimit (by simpa [load_cons] using hhalf))
      rw [hone]
      exact ⟨rfl, by simpa using hlimit, Or.inl rfl⟩
    | node hl hr =>
      have := List.length_pos_iff.2 hl.ne_nil
      have := List.length_pos_iff.2 hr.ne_nil
      simp at hlen
      omega

end DiagramDoc.Deflate
