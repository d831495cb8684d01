import Mathlib.Data.List.TakeWhile
import Mathlib.Tactic
import DiagramDoc.Text.AsciiCase
import DiagramDoc.Text.White

/-! # Longest runs

A reader that takes the longest run of some characters is determined by the run and by what stops
it: the next character is not one of them. Trimming takes such runs off both ends of a text, and
nothing but white space.
-/

namespace DiagramDoc.Text

def Stops (p : Char → Bool) (cs : List Char) : Prop := ∀ c ∈ cs.head?, p c = false

section Spans

variable {p : Char → Bool} {run rest : List Char}

theorem stops_cons {c : Char} : Stops p (c :: rest) ↔ p c = false := by
  constructor
  · intro h
    exact h c rfl
  · intro h d hd
    obtain rfl : c = d := Option.some.inj hd
    exact h

theorem stops_nil : Stops p [] := by
  intro c hc
  cases hc

theorem takeWhile_append (hrun : ∀ c ∈ run, p c = true) (hrest : Stops p rest) :
    (run ++ rest).takeWhile p = run := by
  rw [List.takeWhile_append_of_pos hrun]
  cases rest with
  | nil => exact List.append_nil run
  | cons c rest =>
    rw [List.takeWhile_cons_of_neg (by simpa using stops_cons.1 hrest), List.append_nil]

theorem dropWhile_append (hrun : ∀ c ∈ run, p c = true) (hrest : Stops p rest) :
    (run ++ rest).dropWhile p = rest := by
  rw [List.dropWhile_append_of_pos hrun]
  cases rest with
  | nil => rfl
  | cons c rest => exact List.dropWhile_cons_of_neg (by simpa using stops_cons.1 hrest)

theorem stops_dropWhile (cs : List Char) : Stops p (cs.dropWhile p) := by
  intro c hc
  have hhead := List.head?_dropWhile_not p cs
  rw [Option.mem_def.1 hc] at hhead
  simpa using hhead

theorem of_mem_takeWhile {c : Char} {cs : List Char} (h : c ∈ cs.takeWhile p) : p c = true :=
  List.all_eq_true.1 List.all_takeWhile c h

theorem of_mem_takeEndWhile {c : Char} {cs : List Char} (h : c ∈ takeEndWhile p cs) :
    p c = true :=
  of_mem_takeWhile (List.mem_reverse.1 h)

theorem dropEndWhile_append {c : Char} (xs : List Char) (hc : p c = false)
    (hrun : ∀ d ∈ run, p d = true) : dropEndWhile p (xs ++ c :: run) = xs ++ [c] := by
  have hreverse : (xs ++ c :: run).reverse = run.reverse ++ c :: xs.reverse := by simp
  rw [dropEndWhile, hreverse, dropWhile_append]
  · simp
  · intro d hd
    exact hrun d (List.mem_reverse.1 hd)
  · exact stops_cons.2 hc

theorem dropEndWhile_append_of_forall (xs : List Char) (hrun : ∀ d ∈ run, p d = true) :
    dropEndWhile p (xs ++ run) = dropEndWhile p xs := by
  rw [dropEndWhile, dropEndWhile, List.reverse_append, List.dropWhile_append_of_pos]
  intro d hd
  exact hrun d (List.mem_reverse.1 hd)

theorem of_getLast?_dropEndWhile {c : Char} {cs : List Char}
    (h : (dropEndWhile p cs).getLast? = some c) : p c = false := by
  rw [dropEndWhile, List.getLast?_reverse] at h
  exact stops_dropWhile cs.reverse c h

theorem dropEndWhile_eq_self {cs : List Char} (h : ∀ c ∈ cs.getLast?, p c = false) :
    dropEndWhile p cs = cs := by
  cases hlast : cs.getLast? with
  | none =>
    rw [List.getLast?_eq_none_iff.1 hlast]
    rfl
  | some c =>
    obtain ⟨init, rfl⟩ := List.getLast?_eq_some_iff.1 hlast
    exact dropEndWhile_append init (h c hlast) (List.forall_mem_nil _)

/-- Dropping at both ends leaves what has nothing to drop at its own ends. -/
theorem dropEndWhile_dropWhile {before cs behind : List Char} (hbefore : ∀ c ∈ before, p c = true)
    (hbehind : ∀ c ∈ behind, p c = true) (hfirst : Stops p cs)
    (hlast : ∀ c ∈ cs.getLast?, p c = false) :
    dropEndWhile p ((before ++ (cs ++ behind)).dropWhile p) = cs := by
  rw [List.dropWhile_append_of_pos hbefore]
  cases cs with
  | nil =>
    rw [List.nil_append, List.dropWhile_eq_nil_iff.2 hbehind]
    rfl
  | cons c cs =>
    rw [List.cons_append, List.dropWhile_cons_of_neg (by simpa using stops_cons.1 hfirst),
      ← List.cons_append, dropEndWhile_append_of_forall _ hbehind, dropEndWhile_eq_self hlast]

end Spans

theorem notMem_replaced {d : Char} {new : List Char} (h : d ∉ new) (cs : List Char) :
    d ∉ cs.flatMap fun c => if c = d then new else [c] := by
  rw [List.mem_flatMap]
  rintro ⟨c, -, hmem⟩
  split at hmem
  · exact h hmem
  · next hc => exact hc (List.mem_singleton.1 hmem).symm

/-- A text of two characters or more that starts and ends with `c`. -/
theorem isEnclosed_iff {c : Char} {cs : List Char} :
    (decide (cs.length ≥ 2) && cs.head? == some c && cs.getLast? == some c) = true ↔
      ∃ inner, cs = c :: inner ++ [c] := by
  simp only [Bool.and_eq_true, beq_iff_eq, decide_eq_true_eq]
  constructor
  · rintro ⟨⟨hlong, hhead⟩, hlast⟩
    obtain ⟨tail, rfl⟩ := List.head?_eq_some_iff.1 hhead
    obtain ⟨inner, hinner⟩ := List.getLast?_eq_some_iff.1 hlast
    cases inner with
    | nil =>
      rw [hinner] at hlong
      exact absurd hlong (Nat.not_succ_le_self 1)
    | cons d inner =>
      obtain ⟨rfl, rfl⟩ := List.cons.inj hinner
      exact ⟨inner, rfl⟩
  · rintro ⟨inner, rfl⟩
    rw [List.getLast?_concat]
    simp

/-! ### Trimming -/

section Space

variable {p : Char → Bool} (hp : ∀ c, p c = true → isSpace c = false)

include hp

theorem filter_dropWhile_isSpace (cs : List Char) :
    (cs.dropWhile isSpace).filter p = cs.filter p := by
  induction cs with
  | nil => rfl
  | cons c cs ih =>
    by_cases hc : isSpace c = true
    · have hpc : p c = false := by
        by_contra h
        rw [hp c (by simpa using h)] at hc
        cases hc
      rw [List.dropWhile_cons_of_pos hc, ih, List.filter_cons_of_neg (by simp [hpc])]
    · rw [List.dropWhile_cons_of_neg hc]

theorem filter_trim (cs : List Char) : (trim cs).filter p = cs.filter p := by
  rw [trim, trimEnd, dropEndWhile, List.filter_reverse, filter_dropWhile_isSpace hp,
    List.filter_reverse, List.reverse_reverse, trimStart, filter_dropWhile_isSpace hp]

end Space

theorem mem_trim {c : Char} {cs : List Char} (hc : isSpace c = false) :
    c ∈ trim cs ↔ c ∈ cs := by
  have hfilter := filter_trim (p := (· == c)) (fun d hd => beq_iff_eq.1 hd ▸ hc) cs
  have hmem := congrArg (c ∈ ·) hfilter
  simpa using hmem

theorem trim_concat {c : Char} (hc : isSpace c = true) (cs : List Char) :
    trim (cs ++ [c]) = trim cs := by
  by_cases hall : ∀ d ∈ cs, isSpace d = true
  · have hnil : cs.dropWhile isSpace = [] := List.dropWhile_eq_nil_iff.2 hall
    have hnil' : (cs ++ [c]).dropWhile isSpace = [] := by
      rw [List.dropWhile_append_of_pos hall, List.dropWhile_cons_of_pos hc]
      rfl
    rw [trim, trim, trimStart, trimStart, hnil, hnil']
  · have hne : cs.dropWhile isSpace ≠ [] := fun hnil => hall (List.dropWhile_eq_nil_iff.1 hnil)
    rw [trim, trim, trimStart, trimStart, List.dropWhile_append, if_neg (by simpa using hne),
      trimEnd, trimEnd, dropEndWhile, dropEndWhile, List.reverse_concat,
      List.dropWhile_cons_of_pos hc]

/-- White space, and nothing else, is what trimming takes off. -/
theorem exists_eq_trim (cs : List Char) :
    ∃ before behind, cs = before ++ (trim cs ++ behind) ∧ (∀ c ∈ before, isSpace c = true) ∧
      ∀ c ∈ behind, isSpace c = true := by
  refine ⟨cs.takeWhile isSpace, takeEndWhile isSpace (trimStart cs), ?_, ?_, ?_⟩
  · calc cs = cs.takeWhile isSpace ++ trimStart cs := List.takeWhile_append_dropWhile.symm
      _ = cs.takeWhile isSpace ++ (trim cs ++ takeEndWhile isSpace (trimStart cs)) := by
        rw [trim, trimEnd, dropEndWhile_append_takeEndWhile]
  · intro c hc
    exact of_mem_takeWhile hc
  · intro c hc
    exact of_mem_takeEndWhile hc

theorem trim_append_of_forall {space : List Char} (hspace : ∀ c ∈ space, isSpace c = true)
    (cs : List Char) : trim (cs ++ space) = trim cs := by
  induction space using List.reverseRecOn with
  | nil => rw [List.append_nil]
  | append_singleton space c ih =>
    rw [List.forall_mem_append, List.forall_mem_singleton] at hspace
    rw [← List.append_assoc, trim_concat hspace.2, ih hspace.1]

theorem trim_of_append {space : List Char} (hspace : ∀ c ∈ space, isSpace c = true)
    (cs : List Char) : trim (space ++ cs) = trim cs := by
  rw [trim, trimStart, List.dropWhile_append_of_pos hspace, trim, trimStart]

/-- There is no white space at the ends. -/
structure IsTrimmed (cs : List Char) : Prop where
  first : Stops isSpace cs
  last : ∀ c ∈ cs.getLast?, isSpace c = false

theorem isTrimmed_trim (cs : List Char) : IsTrimmed (trim cs) := by
  constructor
  · intro c hc
    have hglue : trim cs ++ takeEndWhile isSpace (trimStart cs) = trimStart cs :=
      dropEndWhile_append_takeEndWhile isSpace (trimStart cs)
    obtain ⟨rest, hrest⟩ := List.head?_eq_some_iff.1 hc
    rw [hrest] at hglue
    exact stops_dropWhile cs c (List.head?_eq_some_iff.2 ⟨_, hglue.symm⟩)
  · intro c hc
    exact of_getLast?_dropEndWhile hc

theorem IsTrimmed.trim_eq {cs : List Char} (h : IsTrimmed cs) : trim cs = cs := by
  have hstart : trimStart cs = cs := dropWhile_append (List.forall_mem_nil _) h.first
  rw [trim, hstart, trimEnd]
  exact dropEndWhile_eq_self h.last

/-! ### Keywords -/

theorem asciiLower_append (xs ys : List Char) :
    asciiLower (xs ++ ys) = asciiLower xs ++ asciiLower ys :=
  List.map_append

theorem length_asciiLower (cs : List Char) : (asciiLower cs).length = cs.length :=
  List.length_map _

theorem eq_or_eq_toUpper_of_toLower {c d : Char} (h : c.toLower = d) : c = d ∨ c = d.toUpper := by
  by_cases hcapital : 65 ≤ c.toNat ∧ c.toNat ≤ 90
  · right
    have hall : ∀ n < 26, Char.ofNat (65 + n) = (Char.ofNat (65 + n)).toLower.toUpper := by decide
    have hc := hall (c.toNat - 65) (by omega)
    rwa [Nat.add_sub_cancel' hcapital.1, Char.ofNat_toNat, h] at hc
  · have hsame : c.toLower = c := dif_neg hcapital
    exact Or.inl (hsame.symm.trans h)

theorem dropKeyword_eq_some_iff {word cs rest : List Char} :
    dropKeyword word cs = some rest ↔ ∃ start, cs = start ++ rest ∧ asciiLower start = word := by
  rw [dropKeyword]
  constructor
  · intro h
    split at h
    · next hword =>
      obtain rfl := Option.some.inj h
      exact ⟨_, (List.take_append_drop _ _).symm, hword⟩
    · cases h
  · rintro ⟨start, rfl, rfl⟩
    rw [length_asciiLower, List.take_left, List.drop_left, if_pos rfl]

end DiagramDoc.Text
