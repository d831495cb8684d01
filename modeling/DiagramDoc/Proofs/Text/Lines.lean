import Mathlib.Data.List.TakeWhile
import Mathlib.Tactic
import DiagramDoc.Text.Lines

/-! # Edits line by line

Everything about lines follows from one equation: at a separator a split falls into two. What is
found at a line start is replaced line by line if the reader that finds it does not look behind the
line, whatever is there.
-/

namespace DiagramDoc.Text

theorem splitAt_append_cons {p : Char → Bool} {c : Char} (hc : p c = true) (xs ys : List Char) :
    splitAt p (xs ++ c :: ys) = splitAt p xs ++ splitAt p ys := by
  induction xs with
  | nil => simp [splitAt, hc]
  | cons x xs ih =>
    rw [List.cons_append, splitAt, splitAt, ih]
    split
    · rfl
    · obtain ⟨piece, pieces, hxs⟩ := List.exists_cons_of_ne_nil (splitAt_ne_nil p xs)
      rw [hxs]
      rfl

/-- The last piece of one text and the first piece of the next become one piece. -/
theorem splitAt_append (p : Char → Bool) (xs ys : List Char) :
    splitAt p (xs ++ ys) = (splitAt p xs).dropLast ++
      ((splitAt p xs).getLastD [] ++ (splitAt p ys).headD []) :: (splitAt p ys).tail := by
  induction xs with
  | nil =>
    obtain ⟨piece, pieces, hys⟩ := List.exists_cons_of_ne_nil (splitAt_ne_nil p ys)
    rw [List.nil_append, hys]
    rfl
  | cons x xs ih =>
    obtain ⟨piece, pieces, hxs⟩ := List.exists_cons_of_ne_nil (splitAt_ne_nil p xs)
    rw [hxs] at ih
    by_cases hx : p x = true
    · rw [List.cons_append, splitAt, splitAt, if_pos hx, if_pos hx, ih, hxs]
      rfl
    · rw [List.cons_append, splitAt, splitAt, if_neg hx, if_neg hx, ih, hxs]
      cases pieces <;> rfl

theorem exists_mem_splitAt_append {p : Char → Bool} {P : List Char → Prop} {xs ys : List Char} :
    (∃ piece ∈ splitAt p (xs ++ ys), P piece) ↔
      (∃ piece ∈ (splitAt p xs).dropLast, P piece) ∨
        P ((splitAt p xs).getLastD [] ++ (splitAt p ys).headD []) ∨
          ∃ piece ∈ (splitAt p ys).tail, P piece := by
  rw [splitAt_append]
  simp only [List.mem_append, List.mem_cons, or_and_right, exists_or, exists_eq_left]

/-- Around a character that a piece does not hold, the piece lies on one side. -/
theorem mem_splitAt_append_cons {sep c : Char} {piece : List Char} (hc : c ≠ sep)
    (hpiece : c ∉ piece) (xs ys : List Char) :
    piece ∈ splitAt (· == sep) (xs ++ c :: ys) ↔
      piece ∈ (splitAt (· == sep) xs).dropLast ∨ piece ∈ (splitAt (· == sep) ys).tail := by
  obtain ⟨first, pieces, hys⟩ := List.exists_cons_of_ne_nil (splitAt_ne_nil (· == sep) ys)
  have hcons : splitAt (· == sep) (c :: ys) = (c :: first) :: pieces := by
    rw [splitAt, if_neg (by simp [hc]), hys]
  have hne : piece ≠ (splitAt (· == sep) xs).getLastD [] ++ c :: first := by
    rintro rfl
    exact hpiece (by simp)
  rw [splitAt_append, hcons, hys, List.mem_append, List.mem_cons]
  exact or_congr Iff.rfl (or_iff_right hne)

theorem splitAt_of_forall {p : Char → Bool} {cs : List Char} (h : ∀ c ∈ cs, p c = false) :
    splitAt p cs = [cs] := by
  induction cs with
  | nil => rfl
  | cons c cs ih =>
    rw [splitAt, h c List.mem_cons_self, ih fun d hd => h d (List.mem_cons_of_mem c hd)]
    rfl

theorem notMem_of_mem_splitAt {sep : Char} {cs piece : List Char}
    (h : piece ∈ splitAt (· == sep) cs) : sep ∉ piece := by
  induction cs generalizing piece with
  | nil =>
    obtain rfl := List.mem_singleton.1 h
    exact List.not_mem_nil
  | cons c cs ih =>
    obtain ⟨first, pieces, hcs⟩ := List.exists_cons_of_ne_nil (splitAt_ne_nil (· == sep) cs)
    rw [splitAt, hcs] at h
    rw [hcs] at ih
    split at h
    · rcases List.mem_cons.1 h with rfl | h
      · exact List.not_mem_nil
      · exact ih h
    · next hc =>
      rcases List.mem_cons.1 h with rfl | h
      · rw [List.mem_cons, not_or]
        exact ⟨fun heq => hc (by simp [heq]), ih List.mem_cons_self⟩
      · exact ih (List.mem_cons_of_mem first h)

theorem exists_splitAt_eq_concat (p : Char → Bool) (cs : List Char) :
    ∃ pieces last, splitAt p cs = pieces ++ [last] :=
  (List.eq_nil_or_concat' _).resolve_left (splitAt_ne_nil p cs)

theorem subset_of_mem_splitAt {p : Char → Bool} {cs piece : List Char} (h : piece ∈ splitAt p cs) :
    piece ⊆ cs := by
  induction cs generalizing piece with
  | nil =>
    rw [List.mem_singleton.1 h]
    exact List.Subset.refl []
  | cons c cs ih =>
    obtain ⟨first, pieces, hcs⟩ := List.exists_cons_of_ne_nil (splitAt_ne_nil p cs)
    rw [splitAt, hcs] at h
    rw [hcs] at ih
    split at h
    · rcases List.mem_cons.1 h with rfl | h
      · exact List.nil_subset _
      · exact List.subset_cons_of_subset c (ih h)
    · rcases List.mem_cons.1 h with rfl | h
      · exact List.cons_subset_cons c (ih List.mem_cons_self)
      · exact List.subset_cons_of_subset c (ih (List.mem_cons_of_mem first h))

/-- For what neither an empty line has nor a carriage return changes, the lines of a text are the
pieces between its line feeds. -/
theorem exists_mem_lines_iff {P : List Char → Prop} (hnil : ¬ P [])
    (hreturn : ∀ line, P (dropReturn line) ↔ P line) {cs : List Char} :
    (∃ line ∈ lines cs, P line) ↔ ∃ line ∈ splitAt (· == '\n') cs, P line := by
  obtain ⟨pieces, last, hsplit⟩ := exists_splitAt_eq_concat (· == '\n') cs
  have hlast : (∃ line ∈ if last = [] then [] else [last], P line) ↔ P last := by
    split
    · next hempty =>
      rw [hempty]
      simpa using hnil
    · simp
  rw [lines, hsplit]
  simp only [List.dropLast_concat, List.getLastD_concat, List.mem_append, or_and_right,
    exists_or, hlast]
  simp [hreturn]

theorem splitAt_join {sep : Char} {pieces : List (List Char)} (hne : pieces ≠ [])
    (h : ∀ piece ∈ pieces, sep ∉ piece) :
    splitAt (· == sep) (join [sep] pieces) = pieces := by
  have hpiece {piece : List Char} (hsep : sep ∉ piece) :
      splitAt (· == sep) piece = [piece] := by
    apply splitAt_of_forall
    intro c hc
    exact beq_eq_false_iff_ne.2 fun heq => hsep (heq ▸ hc)
  induction pieces with
  | nil => exact absurd rfl hne
  | cons piece pieces ih =>
    obtain ⟨hfirst, hrest⟩ := List.forall_mem_cons.1 h
    cases pieces with
    | nil => exact hpiece hfirst
    | cons next pieces =>
      have htail := ih (List.cons_ne_nil next pieces) hrest
      have hsep : (sep == sep) = true := beq_self_eq_true sep
      rw [join, List.append_assoc, List.singleton_append,
        splitAt_append_cons (p := (· == sep)) hsep, hpiece hfirst, htail]
      · rfl
      · exact List.cons_ne_nil next pieces

theorem join_append {sep : List Char} {pieces more : List (List Char)} (hpieces : pieces ≠ [])
    (hmore : more ≠ []) : join sep (pieces ++ more) = join sep pieces ++ sep ++ join sep more := by
  obtain ⟨first, rest, rfl⟩ := List.exists_cons_of_ne_nil hpieces
  induction rest generalizing first with
  | nil =>
    obtain ⟨next, more, rfl⟩ := List.exists_cons_of_ne_nil hmore
    rfl
  | cons next rest ih =>
    change first ++ sep ++ join sep (next :: rest ++ more) =
      first ++ sep ++ join sep (next :: rest) ++ sep ++ join sep more
    rw [ih next (List.cons_ne_nil next rest)]
    simp only [List.append_assoc]

theorem forall_mem_join {P : Char → Prop} {sep : List Char} {pieces : List (List Char)}
    (hsep : ∀ c ∈ sep, P c) (hpieces : ∀ piece ∈ pieces, ∀ c ∈ piece, P c) :
    ∀ c ∈ join sep pieces, P c := by
  fun_induction join sep pieces with
  | case1 => exact List.forall_mem_nil _
  | case2 piece => exact hpieces piece List.mem_cons_self
  | case3 piece pieces hne ih =>
    rw [List.forall_mem_cons] at hpieces
    rw [List.forall_mem_append, List.forall_mem_append]
    exact ⟨⟨hpieces.1, hsep⟩, ih hpieces.2⟩

/-- Between pieces of which none is empty, no separator stands at an end or beside another. -/
theorem separators_within {sep : Char} {cs : List Char} (h : [] ∉ splitAt (· == sep) cs) :
    cs.head? ≠ some sep ∧ cs.getLast? ≠ some sep ∧ ¬ [sep, sep] <:+: cs := by
  have hsep : (sep == sep) = true := beq_self_eq_true sep
  have hsides (xs ys : List Char) (hcs : cs = xs ++ sep :: ys) :
      [] ∉ splitAt (· == sep) xs ∧ [] ∉ splitAt (· == sep) ys := by
    rw [hcs, splitAt_append_cons (p := (· == sep)) hsep, List.mem_append, not_or] at h
    exact h
  have hnil : [] ∈ splitAt (· == sep) [] := List.mem_cons_self
  refine ⟨fun hhead => ?_, fun hlast => ?_, ?_⟩
  · obtain ⟨ys, hcs⟩ := List.head?_eq_some_iff.1 hhead
    exact (hsides [] ys hcs).1 hnil
  · obtain ⟨xs, hcs⟩ := List.getLast?_eq_some_iff.1 hlast
    exact (hsides xs [] hcs).2 hnil
  · rintro ⟨xs, ys, hcs⟩
    have hpair : cs = xs ++ sep :: sep :: ys := by
      rw [← hcs, List.append_assoc]
      rfl
    have hempty : [] ∈ splitAt (· == sep) (sep :: ys) := by
      rw [splitAt, if_pos hsep]
      exact List.mem_cons_self
    exact (hsides xs (sep :: ys) hpair).2 hempty

/-! ### Edits that stay within a line -/

/-- A text with each of its lines edited on its own. -/
def mapLines (f : List Char → List Char) (cs : List Char) : List Char :=
  join ['\n'] ((splitAt (· == '\n') cs).map f)

def StaysInLine (f : List Char → List Char) : Prop := ∀ line, '\n' ∉ line → '\n' ∉ f line

variable {f g : List Char → List Char}

theorem StaysInLine.comp (hf : StaysInLine f) (hg : StaysInLine g) : StaysInLine (f ∘ g) := by
  intro line hline
  exact hf _ (hg line hline)

theorem splitAt_mapLines (hf : StaysInLine f) (cs : List Char) :
    splitAt (· == '\n') (mapLines f cs) = (splitAt (· == '\n') cs).map f := by
  have hne : (splitAt (· == '\n') cs).map f ≠ [] := by
    intro hnil
    exact splitAt_ne_nil _ cs (List.map_eq_nil_iff.1 hnil)
  have hlines : ∀ line ∈ (splitAt (· == '\n') cs).map f, '\n' ∉ line := by
    intro line hline
    obtain ⟨old, hold, rfl⟩ := List.mem_map.1 hline
    exact hf old (notMem_of_mem_splitAt hold)
  rw [mapLines, splitAt_join hne hlines]

theorem mapLines_mapLines (hg : StaysInLine g) (cs : List Char) :
    mapLines f (mapLines g cs) = mapLines (f ∘ g) cs := by
  rw [mapLines, splitAt_mapLines hg, List.map_map, mapLines]

/-- An edit line by line does not look across a line feed. -/
theorem mapLines_append_cons (f : List Char → List Char) (xs ys : List Char) :
    mapLines f (xs ++ '\n' :: ys) = mapLines f xs ++ '\n' :: mapLines f ys := by
  have hne (cs : List Char) : (splitAt (· == '\n') cs).map f ≠ [] := by
    intro hnil
    exact splitAt_ne_nil _ cs (List.map_eq_nil_iff.1 hnil)
  have hfeed : ('\n' == '\n') = true := rfl
  rw [mapLines, splitAt_append_cons (p := (· == '\n')) hfeed, List.map_append,
    join_append (hne xs) (hne ys), mapLines, mapLines]
  simp only [List.append_assoc, List.singleton_append]

theorem mapLines_congr (h : ∀ line, '\n' ∉ line → f line = g line) (cs : List Char) :
    mapLines f cs = mapLines g cs := by
  rw [mapLines, mapLines]
  congr 1
  apply List.map_congr_left
  intro line hline
  exact h line (notMem_of_mem_splitAt hline)

/-- What `parse?` reads in line `i` of a text. -/
def readAt? {α : Type} (parse? : List Char → Option α) (cs : List Char) (i : Nat) : Option α :=
  (splitAt (· == '\n') cs)[i]?.bind parse?

theorem readAt?_eq_some_iff {α : Type} {parse? : List Char → Option α} {cs : List Char} {i : Nat}
    {a : α} : readAt? parse? cs i = some a ↔
      ∃ line, (splitAt (· == '\n') cs)[i]? = some line ∧ parse? line = some a :=
  Option.bind_eq_some_iff

theorem readAt?_mapLines (hf : StaysInLine f) {α : Type} (parse? : List Char → Option α)
    (cs : List Char) (i : Nat) :
    readAt? parse? (mapLines f cs) i = readAt? (parse? ∘ f) cs i := by
  rw [readAt?, splitAt_mapLines hf, List.getElem?_map, Option.bind_map, readAt?]

theorem mapLines_of_notMem {line : List Char} (h : '\n' ∉ line) : mapLines f line = f line := by
  rw [mapLines, splitAt_of_forall]
  · rfl
  · intro c hc
    exact beq_eq_false_iff_ne.2 fun heq => h (heq ▸ hc)

/-! ### Replacing at line starts -/

theorem restOfLine_append_feed (xs ys : List Char) :
    restOfLine (xs ++ '\n' :: ys) = restOfLine xs := by
  induction xs with
  | nil => rfl
  | cons x xs ih =>
    rw [restOfLine, restOfLine, List.cons_append, List.takeWhile_cons, List.takeWhile_cons,
      ← restOfLine, ← restOfLine, ih]

theorem restOfLine_of_notMem {line : List Char} (h : '\n' ∉ line) : restOfLine line = line := by
  rw [restOfLine, List.takeWhile_eq_self_iff]
  exact fun c hc => decide_eq_true (ne_of_mem_of_not_mem hc h)

theorem feed_notMem {p : Char → Bool} (hp : p '\n' = false) {run : List Char}
    (hrun : ∀ c ∈ run, p c = true) : '\n' ∉ run := by
  intro hfeed
  rw [hrun '\n' hfeed] at hp
  cases hp

theorem feed_notMem_cons {c : Char} {cs : List Char} :
    '\n' ∉ c :: cs ↔ (c == '\n') = false ∧ '\n' ∉ cs := by
  rw [List.mem_cons, not_or, beq_eq_false_iff_ne, ← Ne, ne_comm]

/-- A start without line feeds of a text lies in the first line. -/
theorem exists_append_of_feed {front tail line rest : List Char} (hfront : '\n' ∉ front)
    (h : line ++ '\n' :: rest = front ++ tail) : ∃ more, line = front ++ more := by
  rcases List.append_eq_append_iff.1 h with ⟨more, rfl, hrest⟩ | ⟨more, rfl, -⟩
  · cases more with
    | nil => exact ⟨[], by simp⟩
    | cons c more =>
      obtain ⟨rfl, -⟩ := List.cons.inj hrest
      exact absurd (by simp) hfront
  · exact ⟨more, rfl⟩

/-- What is found in a line is a start of it and is not empty, and what stands behind the line feed
has no part in it. -/
structure FindsInLine (find? : List Char → Option (List Char × List Char)) : Prop where
  append_feed : ∀ line rest, '\n' ∉ line → find? (line ++ '\n' :: rest) = find? line
  isStart : ∀ line, '\n' ∉ line → ∀ found written, find? line = some (found, written) →
    found ≠ [] ∧ found <+: line

/-- A line with what is found at its start replaced. -/
def replaceStart (find? : List Char → Option (List Char × List Char)) (line : List Char) :
    List Char :=
  match find? line with
  | some (found, written) => written ++ line.drop found.length
  | none => line

variable {find? : List Char → Option (List Char × List Char)} {xs : List Char}

/-- Within a line all is copied. -/
theorem replaceFrom_append_of_notMem (hxs : '\n' ∉ xs) (ys : List Char) :
    replaceFrom find? false 0 (xs ++ ys) = xs ++ replaceFrom find? false 0 ys := by
  induction xs with
  | nil => rfl
  | cons x xs ih =>
    obtain ⟨hx, hxs⟩ := feed_notMem_cons.1 hxs
    rw [List.cons_append, replaceFrom, if_neg Bool.false_ne_true]
    dsimp only
    rw [hx, ih hxs, List.cons_append]

/-- A found text is passed over. -/
theorem replaceFrom_length (hxs : '\n' ∉ xs) (ys : List Char) :
    replaceFrom find? false xs.length (xs ++ ys) = replaceFrom find? false 0 ys := by
  induction xs with
  | nil => rfl
  | cons x xs ih =>
    obtain ⟨hx, hxs⟩ := feed_notMem_cons.1 hxs
    rw [List.length_cons, List.cons_append, replaceFrom, hx, ih hxs]

theorem FindsInLine.find?_nil (h : FindsInLine find?) : find? [] = none := by
  rw [Option.eq_none_iff_forall_ne_some]
  rintro ⟨found, written⟩ hfound
  obtain ⟨hne, hstart⟩ := h.isStart [] List.not_mem_nil found written hfound
  exact hne (List.prefix_nil.1 hstart)

/-- From a line start on, the line is edited on its own, and then all goes on at its end. -/
theorem FindsInLine.replaceFrom_line (h : FindsInLine find?) {line rest : List Char}
    (hline : '\n' ∉ line) (hrest : rest = [] ∨ ∃ more, rest = '\n' :: more) :
    replaceFrom find? true 0 (line ++ rest) =
      replaceStart find? line ++ replaceFrom find? false 0 rest := by
  have hfind : find? (line ++ rest) = find? line := by
    rcases hrest with rfl | ⟨more, rfl⟩
    · rw [List.append_nil]
    · exact h.append_feed line more hline
  cases line with
  | nil =>
    rw [replaceStart, h.find?_nil]
    rw [h.find?_nil, List.nil_append] at hfind
    cases rest with
    | nil => rfl
    | cons c rest =>
      rw [List.nil_append, List.nil_append, replaceFrom, replaceFrom, if_pos rfl, hfind]
      rfl
  | cons c line =>
    rw [List.cons_append] at hfind
    rw [List.cons_append, replaceFrom, if_pos rfl, hfind, replaceStart]
    obtain ⟨hc, hcs⟩ := feed_notMem_cons.1 hline
    cases hfound : find? (c :: line) with
    | none =>
      dsimp only
      rw [hc, replaceFrom_append_of_notMem hcs, List.cons_append]
    | some place =>
      obtain ⟨found, written⟩ := place
      obtain ⟨hne, hstart⟩ := h.isStart (c :: line) hline found written hfound
      obtain ⟨d, found, rfl⟩ := List.exists_cons_of_ne_nil hne
      obtain ⟨rfl, tail, rfl⟩ := List.cons_prefix_cons.1 hstart
      rw [List.mem_append, not_or] at hcs
      obtain ⟨hpassed, hcopied⟩ := hcs
      dsimp only
      rw [hc, List.length_cons, Nat.add_sub_cancel, List.append_assoc, replaceFrom_length hpassed,
        replaceFrom_append_of_notMem hcopied, List.drop_succ_cons, List.drop_left,
        List.append_assoc]

/-- **What is found within lines is replaced line by line.** -/
theorem FindsInLine.replaceAtLineStarts_eq_mapLines (h : FindsInLine find?) (cs : List Char) :
    replaceAtLineStarts find? cs = mapLines (replaceStart find?) cs := by
  have hjoin (pieces : List (List Char)) (hne : pieces ≠ [])
      (hpieces : ∀ piece ∈ pieces, '\n' ∉ piece) :
      replaceAtLineStarts find? (join ['\n'] pieces) =
        join ['\n'] (pieces.map (replaceStart find?)) := by
    induction pieces with
    | nil => exact absurd rfl hne
    | cons line pieces ih =>
      rw [List.forall_mem_cons] at hpieces
      cases pieces with
      | nil =>
        have hline := h.replaceFrom_line hpieces.1 (.inl rfl)
        rwa [List.append_nil, replaceFrom, List.append_nil] at hline
      | cons next pieces =>
        have hrest := ih (List.cons_ne_nil next pieces) hpieces.2
        have hline := h.replaceFrom_line hpieces.1
          (.inr ⟨join ['\n'] (next :: pieces), rfl⟩)
        have hfeed : replaceFrom find? false 0 ('\n' :: join ['\n'] (next :: pieces)) =
            '\n' :: replaceAtLineStarts find? (join ['\n'] (next :: pieces)) := rfl
        rw [hfeed, hrest] at hline
        simpa [join, replaceAtLineStarts] using hline
  have hne := splitAt_ne_nil (· == '\n') cs
  have hcs := hjoin _ hne fun piece hpiece => notMem_of_mem_splitAt hpiece
  rwa [join_splitAt] at hcs

end DiagramDoc.Text
