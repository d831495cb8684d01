import Mathlib.Tactic

/-! # Names with a number at the end

A name, a hyphen and a decimal number can be told apart again, because no digit is a hyphen.
-/

namespace DiagramDoc

theorem ofDigitChars_toString (n : Nat) : Nat.ofDigitChars 10 (toString n).toList 0 = n := by
  rw [Nat.toString_eq_ofList_toDigits, String.toList_ofList]
  exact Nat.ofDigitChars_toDigits (by decide) (by decide)

theorem toString_nat_injective {m n : Nat} (h : toString m = toString n) : m = n := by
  rw [← ofDigitChars_toString m, h, ofDigitChars_toString n]

theorem isDigit_of_mem_toString {n : Nat} {c : Char} (h : c ∈ (toString n).toList) :
    c.isDigit = true := by
  rw [Nat.toString_eq_ofList_toDigits, String.toList_ofList] at h
  exact Nat.isDigit_of_mem_toDigits (by decide) (by decide) h

theorem hyphen_notMem_toString (n : Nat) : '-' ∉ (toString n).toList :=
  fun hmem => absurd (isDigit_of_mem_toString hmem) (by decide)

theorem append_hyphen_inj {xs ys ds es : List Char} (hd : '-' ∉ ds) (he : '-' ∉ es)
    (h : xs ++ '-' :: ds = ys ++ '-' :: es) : xs = ys ∧ ds = es := by
  rcases List.append_eq_append_iff.1 h with ⟨cs, rfl, hcs⟩ | ⟨cs, rfl, hcs⟩
  · cases cs with
    | nil => simpa using hcs
    | cons c cs =>
      rw [List.cons_append, List.cons.injEq] at hcs
      exact absurd (by simp [hcs.2]) hd
  · cases cs with
    | nil => simpa using hcs.symm
    | cons c cs =>
      rw [List.cons_append, List.cons.injEq] at hcs
      exact absurd (by simp [hcs.2]) he

theorem append_number_inj {x y : String} {m n : Nat}
    (h : x ++ "-" ++ toString m = y ++ "-" ++ toString n) : x = y ∧ m = n := by
  have hchars := congrArg String.toList h
  simp only [String.toList_append, List.append_assoc] at hchars
  obtain ⟨hname, hnumber⟩ :=
    append_hyphen_inj (hyphen_notMem_toString m) (hyphen_notMem_toString n) hchars
  exact ⟨String.toList_inj.1 hname, toString_nat_injective (String.toList_inj.1 hnumber)⟩

theorem append_number_ne (x : String) (n : Nat) : x ++ "-" ++ toString n ≠ x := by
  intro h
  have hlength := congrArg (fun s => s.toList.length) h
  simp only [String.toList_append, List.length_append] at hlength
  have hhyphen : "-".toList.length = 1 := rfl
  omega

end DiagramDoc
