/-! # Classes of characters as ranges

A class is an ascending list of closed ranges of code points. A lookup walks the list and stops at
the first range that ends at or behind the code point.
-/

namespace DiagramDoc.Unicode

def inRanges (n : Nat) : List (Nat × Nat) → Bool
  | [] => false
  | (lo, hi) :: rest => if n ≤ hi then lo ≤ n else inRanges n rest

theorem exists_range_of_inRanges {n : Nat} {ranges : List (Nat × Nat)}
    (h : inRanges n ranges = true) : ∃ r ∈ ranges, r.1 ≤ n ∧ n ≤ r.2 := by
  induction ranges with
  | nil => simp [inRanges] at h
  | cons r rest ih =>
    obtain ⟨lo, hi⟩ := r
    by_cases hn : n ≤ hi
    · exact ⟨(lo, hi), by simp, by simpa [inRanges, hn] using h, hn⟩
    · obtain ⟨r, hr, hb⟩ := ih (by simpa [inRanges, hn] using h)
      exact ⟨r, by simp [hr], hb⟩

end DiagramDoc.Unicode
