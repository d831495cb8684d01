import DiagramDoc.Deflate.Block
import DiagramDoc.Proofs.Deflate.Tokens

/-! # Runs of word lengths are read back

Word lengths are written as items, each of which stands for a run of them. A run of the last length
means something only behind a length, so what an item stands for depends on the lengths in front of
it. The items of a list stand for just that list, and the reader takes them one by one until it has
as many lengths as it was told.
-/

namespace DiagramDoc.Deflate

open Inflate

namespace LengthItem

/-- The lengths that an item stands for behind the lengths `done`. -/
def run? (done : List Nat) : LengthItem → Option (List Nat)
  | plain length => some [length]
  | again times => done.getLast?.map (List.replicate times)
  | zeros times => some (List.replicate times 0)
  | manyZeros times => some (List.replicate times 0)

/-- Whether an item has a symbol and its number of times fits into the extra bits. -/
def IsWritable : LengthItem → Prop
  | plain length => length ≤ 15
  | again times => 3 ≤ times ∧ times ≤ 6
  | zeros times => 3 ≤ times ∧ times ≤ 10
  | manyZeros times => 11 ≤ times ∧ times ≤ 138

theorem symbol_lt {item : LengthItem} (h : item.IsWritable) : item.symbol < 19 := by
  cases item with
  | plain length =>
    simp only [symbol, IsWritable] at h ⊢
    omega
  | again times => exact (by decide : 16 < 19)
  | zeros times => exact (by decide : 17 < 19)
  | manyZeros times => exact (by decide : 18 < 19)

theorem ne_nil_of_run? {item : LengthItem} {done run : List Nat} (h : item.IsWritable)
    (hrun : item.run? done = some run) : run ≠ [] := by
  cases item with
  | plain length =>
    obtain rfl : [length] = run := by simpa [run?] using hrun
    simp
  | again times =>
    obtain ⟨last, -, rfl⟩ := Option.map_eq_some_iff.1 hrun
    have := h.1
    simp
    omega
  | zeros times =>
    obtain rfl : List.replicate times 0 = run := by simpa [run?] using hrun
    have := h.1
    simp
    omega
  | manyZeros times =>
    obtain rfl : List.replicate times 0 = run := by simpa [run?] using hrun
    have := h.1
    simp
    omega

end LengthItem

/-- The lengths behind `done` and the items, if each item stands for something there. -/
def runAll? (done : List Nat) (items : List LengthItem) : Option (List Nat) :=
  items.foldlM (fun done item => (item.run? done).map (done ++ ·)) done

@[simp]
theorem runAll?_nil (done : List Nat) : runAll? done [] = some done := rfl

theorem runAll?_cons (done : List Nat) (item : LengthItem) (items : List LengthItem) :
    runAll? done (item :: items) = (item.run? done).bind fun run => runAll? (done ++ run) items := by
  rw [runAll?, List.foldlM_cons, Option.bind_eq_bind, Option.bind_map]
  rfl

theorem runAll?_append (done : List Nat) (as bs : List LengthItem) :
    runAll? done (as ++ bs) = (runAll? done as).bind (runAll? · bs) := by
  simp [runAll?, List.foldlM_append]

theorem runAll?_replicate_plain (done : List Nat) (length times : Nat) :
    runAll? done (List.replicate times (.plain length)) =
      some (done ++ List.replicate times length) := by
  induction times generalizing done with
  | zero => simp
  | succ times ih =>
    rw [List.replicate_succ, runAll?_cons, LengthItem.run?, Option.bind_some, ih]
    simp [List.replicate_succ]

/-! ### The items of a list -/

/-- Parts of a run make up the run, if what each part needs in front of it holds behind every other
part. -/
theorem runAll?_chunked {most length : Nat} {item : Nat → List LengthItem}
    (before : List Nat → Prop)
    (hpart : ∀ done n, n ≤ most → before done →
      runAll? done (item n) = some (done ++ List.replicate n length))
    (hkeep : ∀ done n, before done → before (done ++ List.replicate n length))
    (hmost : 0 < most) {done : List Nat} (hdone : before done) (n : Nat) :
    runAll? done (chunked most item n) = some (done ++ List.replicate n length) := by
  have hwhole (q : Nat) : runAll? done (List.replicate q (item most)).flatten =
      some (done ++ List.replicate (q * most) length) := by
    induction q with
    | zero => simp
    | succ q ih =>
      rw [List.replicate_succ', List.flatten_append, runAll?_append, ih]
      simp only [List.flatten_singleton, Option.bind_some]
      rw [hpart _ _ (Nat.le_refl most) (hkeep done _ hdone), List.append_assoc,
        List.replicate_append_replicate, Nat.succ_mul]
  have hn : n / most * most + n % most = n := Nat.div_add_mod' n most
  rw [chunked, runAll?_append, hwhole, Option.bind_some,
    hpart _ _ (Nat.mod_lt n hmost).le (hkeep done _ hdone), List.append_assoc,
    List.replicate_append_replicate, hn]

theorem runAll?_zeroItems (done : List Nat) (times : Nat) :
    runAll? done (zeroItems times) = some (done ++ List.replicate times 0) := by
  rw [zeroItems]
  split
  · exact runAll?_replicate_plain done 0 times
  · split <;> simp [runAll?_cons, LengthItem.run?]

theorem runAll?_repeatItems {done : List Nat} {length : Nat} (times : Nat)
    (hlast : done.getLast? = some length) :
    runAll? done (repeatItems length times) = some (done ++ List.replicate times length) := by
  rw [repeatItems]
  split
  · exact runAll?_replicate_plain done length times
  · simp [runAll?_cons, LengthItem.run?, hlast]

theorem runAll?_runItems (done : List Nat) {length n : Nat} (hn : 0 < n) :
    runAll? done (runItems length n) = some (done ++ List.replicate n length) := by
  rw [runItems]
  split
  · next hzero =>
    rw [hzero]
    exact runAll?_chunked (fun _ => True) (fun done n _ _ => runAll?_zeroItems done n)
      (fun _ _ _ => trivial) (by decide) trivial n
  · have hkeep (done : List Nat) (n : Nat) (h : done.getLast? = some length) :
        (done ++ List.replicate n length).getLast? = some length := by
      cases n with
      | zero => simpa using h
      | succ n => simp [List.replicate_succ']
    have hlast : (done ++ [length]).getLast? = some length := by simp
    have hrest := runAll?_chunked (fun done => done.getLast? = some length)
      (fun done n _ h => runAll?_repeatItems n h) hkeep (by decide : 0 < 6) hlast (n - 1)
    obtain ⟨m, rfl⟩ : ∃ m, n = m + 1 := ⟨n - 1, by omega⟩
    rw [Nat.add_sub_cancel] at hrest ⊢
    rw [runAll?_cons, LengthItem.run?, Option.bind_some, hrest]
    simp [List.replicate_succ]

theorem runs_pos {xs : List Nat} {x n : Nat} (h : (x, n) ∈ runs xs) : 0 < n := by
  induction xs generalizing x n with
  | nil => simp [runs] at h
  | cons y ys ih =>
    rw [runs] at h
    split at h
    · next z m rest hruns =>
      split at h
      · rcases List.mem_cons.1 h with heq | hmem
        · simp only [Prod.mk.injEq] at heq
          omega
        · exact ih (hruns ▸ List.mem_cons_of_mem _ hmem)
      · rcases List.mem_cons.1 h with heq | hmem
        · simp only [Prod.mk.injEq] at heq
          omega
        · exact ih (hruns ▸ hmem)
    · simp only [List.mem_singleton, Prod.mk.injEq] at h
      omega

theorem flatMap_runs (xs : List Nat) : (runs xs).flatMap (fun (x, n) => List.replicate n x) = xs := by
  induction xs with
  | nil => rfl
  | cons y ys ih =>
    rw [runs]
    split
    · next z m rest hruns =>
      rw [hruns] at ih
      split
      · next heq =>
        rw [heq]
        simpa [List.replicate_succ] using ih
      · simpa using ih
    · next hruns =>
      rw [hruns] at ih
      simpa using ih

theorem runAll?_lengthItems (done lengths : List Nat) :
    runAll? done (lengthItems lengths) = some (done ++ lengths) := by
  have hruns (rs : List (Nat × Nat)) (hpos : ∀ r ∈ rs, 0 < r.2) (done : List Nat) :
      runAll? done (rs.flatMap fun (length, n) => runItems length n) =
        some (done ++ rs.flatMap fun (x, n) => List.replicate n x) := by
    induction rs generalizing done with
    | nil => simp
    | cons r rs ih =>
      rw [List.flatMap_cons, runAll?_append, runAll?_runItems done (hpos r (by simp)),
        Option.bind_some, ih fun s hs => hpos s (by simp [hs])]
      simp
  rw [lengthItems, hruns _ fun r hr => runs_pos hr, flatMap_runs]

/-! ### Items within the format -/

theorem mem_chunked {most n : Nat} {item : Nat → List LengthItem} {x : LengthItem}
    (hmost : 0 < most) (h : x ∈ chunked most item n) : ∃ m ≤ most, x ∈ item m := by
  rw [chunked, List.mem_append, List.mem_flatten] at h
  rcases h with ⟨items, hitems, hx⟩ | hx
  · rw [List.eq_of_mem_replicate hitems] at hx
    exact ⟨most, Nat.le_refl most, hx⟩
  · exact ⟨n % most, (Nat.mod_lt n hmost).le, hx⟩

theorem isWritable_of_mem_runItems {length n : Nat} {item : LengthItem} (hlength : length ≤ 15)
    (h : item ∈ runItems length n) : item.IsWritable := by
  rw [runItems] at h
  split at h
  · obtain ⟨m, hm, hitem⟩ := mem_chunked (by decide) h
    rw [zeroItems] at hitem
    split at hitem
    · rw [List.eq_of_mem_replicate hitem]
      exact Nat.zero_le _
    · split at hitem
      · rw [List.mem_singleton] at hitem
        subst hitem
        exact ⟨by omega, by omega⟩
      · rw [List.mem_singleton] at hitem
        subst hitem
        exact ⟨by omega, hm⟩
  · rcases List.mem_cons.1 h with rfl | h
    · exact hlength
    · obtain ⟨m, hm, hitem⟩ := mem_chunked (by decide) h
      rw [repeatItems] at hitem
      split at hitem
      · rw [List.eq_of_mem_replicate hitem]
        exact hlength
      · rw [List.mem_singleton] at hitem
        subst hitem
        exact ⟨by omega, hm⟩

theorem isWritable_of_mem_lengthItems {lengths : List Nat} {item : LengthItem}
    (hlengths : ∀ l ∈ lengths, l ≤ 15) (h : item ∈ lengthItems lengths) : item.IsWritable := by
  obtain ⟨⟨length, n⟩, hrun, hitem⟩ := List.mem_flatMap.1 h
  refine isWritable_of_mem_runItems (hlengths length ?_) hitem
  rw [← flatMap_runs lengths]
  exact List.mem_flatMap.2 ⟨(length, n), hrun, by simpa using (runs_pos hrun).ne'⟩

/-! ### Reading -/

theorem readRun_item {code done run : List Nat} {item : LengthItem} (rest : List Bool)
    (hcode : IsReadable code) (hword : code.getD item.symbol 0 ≠ 0) (hwritable : item.IsWritable)
    (hrun : item.run? done = some run) :
    readRun code done ((codeWords code).toArray.getD item.symbol [] ++ (item.extra ++ rest)) =
      some (run, rest) := by
  rw [readRun, readSymbol_word hcode hword]
  cases item with
  | plain length =>
    have hlt : length < 16 := Nat.lt_succ_of_le hwritable
    simpa [LengthItem.symbol, LengthItem.extra, hlt, LengthItem.run?] using hrun
  | again times =>
    obtain ⟨hmin, hmax⟩ := hwritable
    obtain ⟨last, hlast, rfl⟩ := Option.map_eq_some_iff.1 hrun
    have hread := readNumber_numberBits rest (by omega : times - 3 < 2 ^ 2)
    have htimes : 3 + (times - 3) = times := by omega
    simp [LengthItem.symbol, LengthItem.extra, hlast, hread, htimes]
  | zeros times =>
    obtain ⟨hmin, hmax⟩ := hwritable
    have hread := readNumber_numberBits rest (by omega : times - 3 < 2 ^ 3)
    have htimes : 3 + (times - 3) = times := by omega
    simpa [LengthItem.symbol, LengthItem.extra, hread, htimes, LengthItem.run?] using hrun
  | manyZeros times =>
    obtain ⟨hmin, hmax⟩ := hwritable
    have hread := readNumber_numberBits rest (by omega : times - 11 < 2 ^ 7)
    have htimes : 11 + (times - 11) = times := by omega
    simpa [LengthItem.symbol, LengthItem.extra, hread, htimes, LengthItem.run?] using hrun

theorem length_add_length_le {done lengths : List Nat} {items : List LengthItem}
    (hwritable : ∀ item ∈ items, item.IsWritable) (h : runAll? done items = some lengths) :
    done.length + items.length ≤ lengths.length := by
  induction items generalizing done with
  | nil =>
    obtain rfl : done = lengths := by simpa using h
    exact Nat.le_refl _
  | cons item items ih =>
    rw [runAll?_cons, Option.bind_eq_some_iff] at h
    obtain ⟨run, hrun, h⟩ := h
    have hpos := List.length_pos_iff.2 (LengthItem.ne_nil_of_run? (hwritable item (by simp)) hrun)
    have hle := ih (fun i hi => hwritable i (by simp [hi])) h
    rw [List.length_append] at hle
    rw [List.length_cons]
    omega

theorem readLengths_items {code done lengths : List Nat} {items : List LengthItem} {bound : Nat}
    (rest : List Bool) (hcode : IsReadable code)
    (hwords : ∀ item ∈ items, code.getD item.symbol 0 ≠ 0)
    (hwritable : ∀ item ∈ items, item.IsWritable) (hrun : runAll? done items = some lengths)
    (hbound : items.length ≤ bound) :
    readLengths code lengths.length bound done
        (items.flatMap (fun item => (codeWords code).toArray.getD item.symbol [] ++ item.extra) ++
          rest) =
      some (lengths, rest) := by
  induction items generalizing done bound with
  | nil =>
    obtain rfl : done = lengths := by simpa using hrun
    cases bound <;> simp [readLengths]
  | cons item items ih =>
    obtain ⟨bound, rfl⟩ : ∃ b, bound = b + 1 := ⟨bound - 1, by rw [List.length_cons] at hbound; omega⟩
    have hlen := length_add_length_le hwritable hrun
    have hmore : done.length ≠ lengths.length := by
      rw [List.length_cons] at hlen
      omega
    rw [runAll?_cons, Option.bind_eq_some_iff] at hrun
    obtain ⟨run, hitem, hrun⟩ := hrun
    rw [readLengths, if_neg hmore, List.flatMap_cons, List.append_assoc, List.append_assoc,
      readRun_item _ hcode (hwords item (by simp)) (hwritable item (by simp)) hitem]
    exact ih (fun i hi => hwords i (by simp [hi])) (fun i hi => hwritable i (by simp [hi])) hrun
      (by simpa using hbound)

end DiagramDoc.Deflate
