import DiagramDoc.Proofs.Deflate.Assignment
import DiagramDoc.Proofs.Deflate.Runs

/-! # The code in front of a block is read back

A block with a code of its own starts with the word lengths of both alphabets, in items that have a
code themselves. Zeros at the end of a list are not sent, and the reader fills them in.
-/

namespace DiagramDoc.Deflate

open Inflate

/-! ### How often a number occurs -/

theorem getElem?_tally (size : Nat) (xs : List Nat) (i : Nat) :
    (tally size xs)[i]? = if i < size then some (xs.count i) else none := by
  have hfold (counts : Array Nat) :
      (xs.foldl (fun counts x => counts.modify x (· + 1)) counts)[i]? =
        counts[i]?.map (· + xs.count i) := by
    induction xs generalizing counts with
    | nil => simp
    | cons x xs ih =>
      rw [List.foldl_cons, ih, Array.getElem?_modify, List.count_cons]
      by_cases hx : x = i
      · simp [hx, Function.comp_def, Nat.add_comm, Nat.add_left_comm]
      · simp [hx]
  rw [tally, Array.getElem?_toList, hfold, Array.getElem?_replicate]
  split <;> simp

theorem length_tally (size : Nat) (xs : List Nat) : (tally size xs).length = size := by
  refine Nat.le_antisymm ?_ ?_
  · rw [← List.getElem?_eq_none_iff, getElem?_tally, if_neg (Nat.lt_irrefl size)]
  · by_contra hlt
    have hsome := getElem?_tally size xs (tally size xs).length
    rw [List.getElem?_eq_none (Nat.le_refl _), if_pos (by omega)] at hsome
    cases hsome

theorem getD_codeLengths_tally {limit size s : Nat} (xs : List Nat) (hlimit : 1 ≤ limit)
    (hsize : size ≤ 2 ^ limit) (hs : s < size) :
    (codeLengths limit (tally size xs)).getD s 0 = 0 ↔ s ∉ xs := by
  have hmany : (tally size xs).length ≤ 2 ^ limit := by rwa [length_tally]
  have hcount := getElem?_tally size xs s
  rw [if_pos hs] at hcount
  obtain ⟨l, hl, -, hzero⟩ := getElem?_codeLengths hlimit hmany hcount
  rw [List.getD_eq_getElem?_getD, hl, Option.getD_some, hzero, List.count_eq_zero]

/-! ### Zeros at the end -/

theorem exists_dropZeros_append (least : Nat) (xs : List Nat) :
    ∃ k, xs = dropZeros least xs ++ List.replicate k 0 := by
  have hzeros : ((xs.drop least).reverse.takeWhile (· == 0)).reverse =
      List.replicate ((xs.drop least).reverse.takeWhile (· == 0)).length 0 := by
    rw [List.eq_replicate_iff]
    refine ⟨List.length_reverse, ?_⟩
    intro x hx
    have hall := List.all_eq_true.1 (List.all_takeWhile (p := (· == 0))) x (List.mem_reverse.1 hx)
    simpa using hall
  refine ⟨((xs.drop least).reverse.takeWhile (· == 0)).length, ?_⟩
  rw [dropZeros, ← hzeros, List.append_assoc, ← List.reverse_append,
    List.takeWhile_append_dropWhile, List.reverse_reverse, List.take_append_drop]

theorem le_length_dropZeros {least : Nat} {xs : List Nat} (h : least ≤ xs.length) :
    least ≤ (dropZeros least xs).length := by
  rw [dropZeros, List.length_append, List.length_take]
  omega

theorem length_dropZeros_le (least : Nat) (xs : List Nat) :
    (dropZeros least xs).length ≤ xs.length := by
  obtain ⟨k, hk⟩ := exists_dropZeros_append least xs
  conv => rhs; rw [hk]
  simp

theorem length_dropZeros_le_of_zero {least most : Nat} {xs : List Nat} (hle : least ≤ most)
    (hzero : ∀ i, most ≤ i → xs.getD i 0 = 0) : (dropZeros least xs).length ≤ most := by
  obtain ⟨k, hk⟩ := exists_dropZeros_append least xs
  cases htail : (xs.drop least).reverse.dropWhile (· == 0) with
  | nil =>
    rw [dropZeros, htail, List.reverse_nil, List.append_nil, List.length_take]
    omega
  | cons x rest =>
    have hx : x ≠ 0 := by
      have hhead := List.head?_dropWhile_not (· == 0) (xs.drop least).reverse
      rw [htail] at hhead
      simpa using hhead
    obtain ⟨front, hfront⟩ : ∃ front, dropZeros least xs = front ++ [x] :=
      ⟨xs.take least ++ rest.reverse, by
        rw [dropZeros, htail, List.reverse_cons, List.append_assoc]⟩
    by_contra hlong
    have hget := hzero front.length (by
      rw [hfront, List.length_append, List.length_singleton] at hlong
      omega)
    rw [hk, hfront, List.append_assoc, List.getD_eq_getElem?_getD,
      List.getElem?_append_right (Nat.le_refl _), Nat.sub_self] at hget
    exact hx (by simpa using hget)

theorem getD_dropZeros (least : Nat) (xs : List Nat) (i : Nat) :
    (dropZeros least xs).getD i 0 = xs.getD i 0 := by
  obtain ⟨k, hk⟩ := exists_dropZeros_append least xs
  conv => rhs; rw [hk]
  rw [List.getD_eq_getElem?_getD, List.getD_eq_getElem?_getD]
  by_cases hi : i < (dropZeros least xs).length
  · rw [List.getElem?_append_left hi]
  · rw [List.getElem?_append_right (Nat.le_of_not_lt hi), List.getElem?_replicate,
      List.getElem?_eq_none (Nat.le_of_not_lt hi)]
    split <;> rfl

theorem isReadable_dropZeros {least : Nat} {xs : List Nat} (h : IsReadable xs) :
    IsReadable (dropZeros least xs) := by
  obtain ⟨k, hk⟩ := exists_dropZeros_append least xs
  rw [hk] at h
  exact h.of_append_zeros

/-! ### The header -/

theorem getElem?_idxOf_itemOrder :
    ∀ s < 19, itemOrder[sendingOrder.idxOf s]? = some s := by
  decide

theorem map_getD_sendingOrder {lengths : List Nat} (hlen : lengths.length = 19) :
    ((List.range 19).map fun s =>
      (dropZeros 4 (itemOrder.map fun i => lengths.getD i 0)).getD (sendingOrder.idxOf s) 0) =
        lengths := by
  apply List.ext_getElem?
  intro s
  rw [List.getElem?_map]
  by_cases hs : s < 19
  · have hget := getElem?_idxOf_itemOrder s hs
    rw [List.getElem?_range hs, Option.map_some, getD_dropZeros, List.getD_eq_getElem?_getD,
      List.getElem?_map, hget, List.getElem?_eq_getElem (by omega)]
    simp [hlen, hs]
  · rw [List.getElem?_eq_none (by simpa using hs), List.getElem?_eq_none (by omega)]
    rfl

theorem readCodes_of {bits afterN afterM afterK afterSent rest : List Bool} {n m k : Nat}
    {sent code lengths symbols distances : List Nat}
    (hn : readNumber 5 bits = some (n, afterN)) (hm : readNumber 5 afterN = some (m, afterM))
    (hk : readNumber 4 afterM = some (k, afterK))
    (hsent : readNumbers 3 (k + 4) afterK = some (sent, afterSent))
    (hcode : ((List.range 19).map fun s => sent.getD (sendingOrder.idxOf s) 0) = code)
    (hlengths : readLengths code (n + 257 + (m + 1)) (n + 257 + (m + 1)) [] afterSent =
      some (lengths, rest))
    (hsymbols : lengths.take (n + 257) = symbols) (hdistances : lengths.drop (n + 257) = distances)
    (hok : n + 257 ≤ 286 ∧ m + 1 ≤ 30 ∧ isCode code ∧ isCode symbols ∧ isCode distances ∧
      symbols.getD 256 0 ≠ 0) :
    readCodes bits = some ((symbols, distances), rest) := by
  simp only [readCodes, hn, hm, hk, hsent, hcode, hlengths, hsymbols, hdistances,
    Option.bind_eq_bind, Option.bind_some]
  rw [if_pos hok]

/-- The lengths of words for symbols of items take three bits, sent or not. -/
theorem lt_of_mem_sent {counts sent : List Nat} (hcounts : counts.length = 19)
    (hsent : sent = dropZeros 4 (itemOrder.map fun i => (codeLengths 7 counts).getD i 0)) :
    ∀ n ∈ sent, n < 2 ^ 3 := by
  intro n hn
  obtain ⟨k, hk⟩ := exists_dropZeros_append 4
    (itemOrder.map fun i => (codeLengths 7 counts).getD i 0)
  rw [← hsent] at hk
  have hmem : n ∈ itemOrder.map fun i => (codeLengths 7 counts).getD i 0 := by
    rw [hk]
    exact List.mem_append_left _ hn
  obtain ⟨i, hi, rfl⟩ := List.mem_map.1 hmem
  have hi19 : i < 19 := (by decide : ∀ i ∈ itemOrder, i < 19) i hi
  have hcounted : counts[i]? = some counts[i] := List.getElem?_eq_getElem (by omega)
  have hmany : counts.length ≤ 2 ^ 7 := by
    rw [hcounts]
    decide
  obtain ⟨l, hl, hle, -⟩ := getElem?_codeLengths (by decide) hmany hcounted
  rw [List.getD_eq_getElem?_getD, hl]
  exact Nat.lt_succ_of_le hle

/-- **The header is read back.** -/
theorem readCodes_headerBits {symbols distances : List Nat} (rest : List Bool)
    (hsymbols : IsReadable symbols) (hdistances : IsReadable distances)
    (hmin : 257 ≤ symbols.length) (hmax : symbols.length ≤ 286) (hmin' : 1 ≤ distances.length)
    (hmax' : distances.length ≤ 30) (hend : symbols.getD endOfBlock 0 ≠ 0) :
    readCodes (headerBits symbols distances ++ rest) = some ((symbols, distances), rest) := by
  obtain ⟨items, hitems⟩ : ∃ items, items = lengthItems (symbols ++ distances) := ⟨_, rfl⟩
  obtain ⟨code, hcode⟩ : ∃ code, code = codeLengths 7 (tally 19 (items.map LengthItem.symbol)) :=
    ⟨_, rfl⟩
  obtain ⟨sent, hsent⟩ : ∃ sent, sent = dropZeros 4 (itemOrder.map fun i => code.getD i 0) :=
    ⟨_, rfl⟩
  have hlen : code.length = 19 := by rw [hcode, length_codeLengths, length_tally]
  have hreadable : IsReadable code := by
    rw [hcode]
    exact isReadable_codeLengths (by decide) (by decide) (by rw [length_tally]; decide)
  have hwritable : ∀ item ∈ items, item.IsWritable := by
    rw [hitems]
    intro item hitem
    apply isWritable_of_mem_lengthItems _ hitem
    intro l hl
    rcases List.mem_append.1 hl with hl | hl
    · exact hsymbols.le_max l hl
    · exact hdistances.le_max l hl
  have hwords : ∀ item ∈ items, code.getD item.symbol 0 ≠ 0 := by
    intro item hitem hzero
    have hlt := LengthItem.symbol_lt (hwritable item hitem)
    rw [hcode, getD_codeLengths_tally _ (by decide) (by decide) hlt] at hzero
    exact hzero (List.mem_map_of_mem hitem)
  have hrun : runAll? [] items = some (symbols ++ distances) := by
    rw [hitems]
    exact runAll?_lengthItems [] _
  have hcount := length_add_length_le hwritable hrun
  have hsentmin : 4 ≤ sent.length := by
    rw [hsent]
    exact le_length_dropZeros (by simp [itemOrder])
  have hsentmax : sent.length ≤ 19 := by
    rw [hsent]
    exact length_dropZeros_le 4 _
  have hsentlt : ∀ n ∈ sent, n < 2 ^ 3 := by
    rw [hcode] at hsent
    exact lt_of_mem_sent (length_tally _ _) hsent
  have hheader : headerBits symbols distances ++ rest =
      numberBits 5 (symbols.length - 257) ++ (numberBits 5 (distances.length - 1) ++
        (numberBits 4 (sent.length - 4) ++ (sent.flatMap (numberBits 3) ++
          ((items.flatMap fun item =>
            (codeWords code).toArray.getD item.symbol [] ++ item.extra) ++ rest)))) := by
    simp only [headerBits, List.append_assoc, hitems, hcode, hsent]
  have htake : (symbols ++ distances).take (symbols.length - 257 + 257) = symbols := by
    rw [Nat.sub_add_cancel hmin, List.take_left]
  have hdrop : (symbols ++ distances).drop (symbols.length - 257 + 257) = distances := by
    rw [Nat.sub_add_cancel hmin, List.drop_left]
  have hnumbers := readNumbers_flatMap ((items.flatMap fun item =>
    (codeWords code).toArray.getD item.symbol [] ++ item.extra) ++ rest) hsentlt
  rw [← Nat.sub_add_cancel hsentmin] at hnumbers
  have hsorted : ((List.range 19).map fun s => sent.getD (sendingOrder.idxOf s) 0) = code := by
    rw [hsent]
    exact map_getD_sendingOrder hlen
  have hlengths := readLengths_items rest hreadable hwords hwritable hrun
    (show items.length ≤ (symbols ++ distances).length by simpa using hcount)
  rw [hheader]
  refine readCodes_of (readNumber_numberBits _ (by omega)) (readNumber_numberBits _ (by omega))
    (readNumber_numberBits _ (by omega)) hnumbers hsorted ?_ htake hdrop ?_
  · rw [Nat.sub_add_cancel hmin, Nat.sub_add_cancel hmin', ← List.length_append]
    exact hlengths
  · rw [Nat.sub_add_cancel hmin, Nat.sub_add_cancel hmin']
    exact ⟨hmax, hmax', hreadable.accepted, hsymbols.accepted, hdistances.accepted, hend⟩

end DiagramDoc.Deflate
