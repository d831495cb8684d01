import DiagramDoc.Proofs.Deflate.Lengths
import DiagramDoc.Proofs.Deflate.Words

/-! # Every used symbol has a word

The limited lengths are handed out to the used symbols, one to each, and every other symbol gets
none. So the lengths of all symbols are the limited lengths in some order, with zeros between them,
and they make a code that the reader takes.
-/

namespace DiagramDoc.Deflate

open Inflate

/-! ### Used symbols -/

theorem perm_usedSymbols (counts : List Nat) :
    (usedSymbols counts).Perm (counts.zipIdx.filter (0 < ·.1)) :=
  List.mergeSort_perm _ _

theorem mem_usedSymbols {counts : List Nat} {n s : Nat} :
    (n, s) ∈ usedSymbols counts ↔ counts[s]? = some n ∧ 0 < n := by
  rw [(perm_usedSymbols counts).mem_iff, List.mem_filter, List.mem_zipIdx_iff_getElem?]
  simp

theorem nodup_usedSymbols (counts : List Nat) : ((usedSymbols counts).map (·.2)).Nodup := by
  have hperm := (perm_usedSymbols counts).map (·.2)
  have hsub : ((counts.zipIdx.filter (0 < ·.1)).map (·.2)).Sublist (List.range counts.length) := by
    have hsnd : counts.zipIdx.map (·.2) = List.range counts.length := by
      simp [List.range_eq_range']
    rw [← hsnd]
    exact (List.filter_sublist).map _
  exact hperm.nodup_iff.2 (hsub.nodup List.nodup_range)

theorem length_usedSymbols_le (counts : List Nat) :
    (usedSymbols counts).length ≤ counts.length := by
  rw [(perm_usedSymbols counts).length_eq]
  simpa using List.length_filter_le (fun p : Nat × Nat => decide (0 < p.1)) counts.zipIdx

def usedDepths (counts : List Nat) : List Nat :=
  treeDepths ((usedSymbols counts).map fun (n, _) => ⟨n, [0]⟩)

theorem length_usedDepths (counts : List Nat) :
    (usedDepths counts).length = (usedSymbols counts).length := by
  rw [usedDepths, length_treeDepths]
  simp [Function.comp_def]

theorem isTree_usedDepths {counts : List Nat} (h : usedSymbols counts ≠ []) :
    IsTree (usedDepths counts) := by
  apply isTree_treeDepths (by simpa using h)
  intro part hpart
  obtain ⟨p, _, rfl⟩ := List.mem_map.1 hpart
  exact .leaf

/-! ### Handing out -/

/-- Lengths of all words of a code within `limit`: at most one word of one bit, or words that leave
no room. -/
structure FillsCode (limit : Nat) (lengths : List Nat) : Prop where
  mem_range : ∀ l ∈ lengths, 1 ≤ l ∧ l ≤ limit
  full : lengths = [] ∨ lengths = [1] ∨ load limit lengths = 2 ^ limit

theorem fillsCode_limitedLengths {limit : Nat} {counts : List Nat} (hlimit : 1 ≤ limit)
    (hmany : counts.length ≤ 2 ^ limit) :
    (limitedLengths limit (usedDepths counts)).length = (usedSymbols counts).length ∧
      FillsCode limit (limitedLengths limit (usedDepths counts)) := by
  have hlen := length_usedDepths counts
  by_cases hused : usedSymbols counts = []
  · have hnil : usedDepths counts = [] := by simpa [hused] using hlen
    have hempty : limitedLengths limit [] = [] :=
      List.perm_nil.1 (perm_limitedLengths hlimit (Nat.zero_le _))
    rw [hnil, hempty, hused]
    exact ⟨rfl, by simp, Or.inl rfl⟩
  · have hmany' : (usedDepths counts).length ≤ 2 ^ limit :=
      hlen.trans_le ((length_usedSymbols_le counts).trans hmany)
    obtain ⟨hlen', hrange, hfull⟩ :=
      limitedLengths_spec hlimit (isTree_usedDepths hused) hmany'
    exact ⟨hlen'.trans hlen, hrange, Or.inr hfull⟩

theorem map_lookup_zip {keys values : List Nat} (hnodup : keys.Nodup)
    (hlen : values.length = keys.length) :
    keys.map (fun k => ((keys.zip values).lookup k).getD 0) = values := by
  induction keys generalizing values with
  | nil => exact (List.length_eq_zero_iff.1 hlen).symm
  | cons k keys ih =>
    cases values with
    | nil => simp at hlen
    | cons v values =>
      obtain ⟨hk, hnodup⟩ := List.nodup_cons.1 hnodup
      have hrest : keys.map (fun j => (((k :: keys).zip (v :: values)).lookup j).getD 0) =
          keys.map fun j => ((keys.zip values).lookup j).getD 0 := by
        apply List.map_congr_left
        intro j hj
        have hne : j ≠ k := fun heq => hk (heq ▸ hj)
        simp [List.lookup_cons, beq_eq_false_iff_ne.2 hne]
      rw [List.map_cons, hrest, ih hnodup (by simpa using hlen)]
      simp

theorem lookup_zip_of_notMem {keys values : List Nat} {k : Nat} (h : k ∉ keys) :
    (keys.zip values).lookup k = none := by
  rw [List.lookup_eq_none_iff]
  rintro ⟨j, v⟩ hmem
  have hj : j ∈ keys := (List.of_mem_zip hmem).1
  simpa using fun heq : k = j => h (heq ▸ hj)

theorem codeLengths_eq (limit : Nat) (counts : List Nat) :
    codeLengths limit counts = (List.range counts.length).map fun symbol =>
      ((((usedSymbols counts).map (·.2)).zip
        (limitedLengths limit (usedDepths counts))).lookup symbol).getD 0 := rfl

theorem length_codeLengths (limit : Nat) (counts : List Nat) :
    (codeLengths limit counts).length = counts.length := by
  simp [codeLengths_eq]

theorem perm_codeLengths {limit : Nat} {counts : List Nat} (hlimit : 1 ≤ limit)
    (hmany : counts.length ≤ 2 ^ limit) :
    ∃ k, (codeLengths limit counts).Perm
      (limitedLengths limit (usedDepths counts) ++ List.replicate k 0) := by
  set keys := (usedSymbols counts).map (·.2) with hkeys
  set lengths := limitedLengths limit (usedDepths counts) with hlengths
  have hlen : lengths.length = keys.length := by
    rw [(fillsCode_limitedLengths hlimit hmany).1, hkeys, List.length_map]
  have hnodup : keys.Nodup := nodup_usedSymbols counts
  have hused : ((List.range counts.length).filter (· ∈ keys)).Perm keys := by
    rw [List.perm_ext_iff_of_nodup (List.nodup_range.filter _) hnodup]
    intro s
    simp only [List.mem_filter, List.mem_range, decide_eq_true_eq, and_iff_right_iff_imp]
    intro hs
    obtain ⟨⟨n, s⟩, hmem, rfl⟩ := List.mem_map.1 hs
    exact (List.getElem?_eq_some_iff.1 (mem_usedSymbols.1 hmem).1).1
  refine ⟨((List.range counts.length).filter (· ∉ keys)).length, ?_⟩
  have hsplit := (List.filter_append_perm (· ∈ keys) (List.range counts.length)).symm
  have hunused : ((List.range counts.length).filter (· ∉ keys)).map
      (fun s => ((keys.zip lengths).lookup s).getD 0) =
      List.replicate ((List.range counts.length).filter (· ∉ keys)).length 0 := by
    rw [← List.map_const']
    apply List.map_congr_left
    intro s hs
    rw [lookup_zip_of_notMem (by simpa using (List.mem_filter.1 hs).2)]
    rfl
  rw [codeLengths_eq, ← hunused]
  refine (hsplit.map _).trans ?_
  rw [List.map_append]
  refine List.Perm.append ?_ (by simp only [decide_not]; exact List.Perm.refl _)
  refine (hused.map _).trans ?_
  rw [map_lookup_zip hnodup hlen]

theorem getElem?_codeLengths {limit : Nat} {counts : List Nat} {s n : Nat} (hlimit : 1 ≤ limit)
    (hmany : counts.length ≤ 2 ^ limit) (hs : counts[s]? = some n) :
    ∃ l, (codeLengths limit counts)[s]? = some l ∧ l ≤ limit ∧ (l = 0 ↔ n = 0) := by
  obtain ⟨hlen, hfills⟩ := fillsCode_limitedLengths hlimit hmany
  obtain ⟨hlt, -⟩ := List.getElem?_eq_some_iff.1 hs
  refine ⟨_, by simp [codeLengths_eq, hlt]; rfl, ?_⟩
  by_cases hzero : n = 0
  · have hnone : s ∉ (usedSymbols counts).map (·.2) := by
      intro hmem
      obtain ⟨⟨m, t⟩, hused, rfl⟩ := List.mem_map.1 hmem
      obtain ⟨hm, hpos⟩ := mem_usedSymbols.1 hused
      rw [hs, hzero] at hm
      exact hpos.ne (Option.some.inj hm)
    rw [lookup_zip_of_notMem hnone]
    simp [hzero]
  · have hmem : s ∈ (usedSymbols counts).map (·.2) :=
      List.mem_map.2 ⟨(n, s), mem_usedSymbols.2 ⟨hs, by omega⟩, rfl⟩
    have hvalue := List.mem_map_of_mem (f := fun symbol =>
      ((((usedSymbols counts).map (·.2)).zip
        (limitedLengths limit (usedDepths counts))).lookup symbol).getD 0) hmem
    rw [map_lookup_zip (nodup_usedSymbols counts) (by simpa using hlen)] at hvalue
    have hrange := hfills.mem_range _ hvalue
    refine ⟨hrange.2, ?_⟩
    omega

/-! ### The code of the lengths -/

theorem taken_cons (l : Nat) (lengths : List Nat) (n : Nat) :
    taken (l :: lengths) n = taken lengths n + if 1 ≤ l ∧ l ≤ n then 2 ^ (n - l) else 0 := by
  induction n with
  | zero =>
    rw [if_neg (by omega)]
    rfl
  | succ n ih =>
    rw [taken, ih, List.count_cons, taken]
    by_cases heq : l = n + 1
    · subst heq
      have hshort : ¬ (1 ≤ n + 1 ∧ n + 1 ≤ n) := by omega
      rw [if_neg hshort]
      simp
      omega
    · have hword : (l == n + 1) = false := beq_eq_false_iff_ne.2 heq
      by_cases hle : 1 ≤ l ∧ l ≤ n
      · have hle' : 1 ≤ l ∧ l ≤ n + 1 := by omega
        rw [if_pos hle, if_pos hle', hword, Nat.succ_sub hle.2, Nat.pow_succ]
        simp only [Bool.false_eq_true, if_false]
        ring
      · have hle' : ¬ (1 ≤ l ∧ l ≤ n + 1) := by omega
        rw [if_neg hle, if_neg hle', hword]
        simp

theorem taken_eq_load {limit : Nat} {lengths : List Nat}
    (h : ∀ l ∈ lengths, 1 ≤ l ∧ l ≤ limit) : taken lengths limit = load limit lengths := by
  induction lengths with
  | nil =>
    have hnil (n : Nat) : taken [] n = 0 := by
      induction n with
      | zero => rfl
      | succ n ih => simp [taken, ih]
    exact hnil limit
  | cons l lengths ih =>
    have hl := h l (by simp)
    rw [taken_cons, ih fun m hm => h m (by simp [hm]), load_cons, if_pos hl, Nat.add_comm]

theorem taken_perm {as bs : List Nat} (h : as.Perm bs) (n : Nat) : taken as n = taken bs n := by
  induction n with
  | zero => rfl
  | succ n ih => rw [taken, taken, ih, h.count_eq]

theorem load_eq_mul {limit most : Nat} {lengths : List Nat} (hle : limit ≤ most)
    (h : ∀ l ∈ lengths, 1 ≤ l ∧ l ≤ limit) :
    load most lengths = 2 ^ (most - limit) * load limit lengths := by
  induction lengths with
  | nil => rfl
  | cons l lengths ih =>
    have hl := h l (by simp)
    have hpow : 2 ^ (most - l) = 2 ^ (most - limit) * 2 ^ (limit - l) := by
      rw [← Nat.pow_add]
      congr 1
      omega
    rw [load_cons, load_cons, ih fun m hm => h m (by simp [hm]), hpow, Nat.mul_add]

/-- **Word lengths are a code.** Whatever the counts are, the reader takes their word lengths. -/
theorem isReadable_codeLengths {limit : Nat} {counts : List Nat} (hlimit : 1 ≤ limit)
    (hmax : limit ≤ 15) (hmany : counts.length ≤ 2 ^ limit) :
    IsReadable (codeLengths limit counts) := by
  obtain ⟨k, hperm⟩ := perm_codeLengths hlimit hmany
  obtain ⟨hrange, hfull⟩ := (fillsCode_limitedLengths hlimit hmany).2
  set lengths := limitedLengths limit (usedDepths counts)
  have htaken : taken (codeLengths limit counts) 15 = load 15 lengths := by
    rw [taken_perm hperm, taken_append_zeros]
    exact taken_eq_load fun l hl => ⟨(hrange l hl).1, (hrange l hl).2.trans hmax⟩
  have hle : ∀ n ∈ codeLengths limit counts, n ≤ 15 := by
    intro n hn
    rw [hperm.mem_iff, List.mem_append, List.mem_replicate] at hn
    rcases hn with hn | ⟨_, rfl⟩
    · exact (hrange n hn).2.trans hmax
    · exact Nat.zero_le _
  -- a code of at most one word, of one bit
  have hfew (hone : ∀ l ∈ lengths, l ≤ 1) (hcount : lengths.count 1 ≤ 1) :
      isCode (codeLengths limit counts) = true := by
    have hall : (codeLengths limit counts).all (· ≤ 1) = true := by
      rw [List.all_eq_true]
      intro n hn
      rw [hperm.mem_iff, List.mem_append, List.mem_replicate] at hn
      rcases hn with hn | ⟨_, rfl⟩
      · simpa using hone n hn
      · rfl
    have hcount' : (codeLengths limit counts).count 1 ≤ 1 := by
      rw [hperm.count_eq]
      simpa [List.count_replicate] using hcount
    simp only [isCode, hall, hcount', Bool.true_and, Bool.or_eq_true, decide_true, or_true]
  rcases hfull with hnil | hsingle | hload
  · rw [hnil] at htaken hfew
    exact ⟨hle, by rw [htaken]; decide, hfew (by simp) (by simp)⟩
  · rw [hsingle] at htaken hfew
    exact ⟨hle, by rw [htaken]; decide, hfew (by simp) (by simp)⟩
  · have hpow : taken (codeLengths limit counts) 15 = 2 ^ 15 := by
      rw [htaken, load_eq_mul hmax hrange, hload, ← Nat.pow_add, Nat.sub_add_cancel hmax]
    refine ⟨hle, hpow.le, ?_⟩
    rw [isCode, freeWords?_eq hpow.le, hpow, Nat.sub_self]
    rfl

end DiagramDoc.Deflate
