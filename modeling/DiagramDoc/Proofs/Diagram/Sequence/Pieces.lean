import DiagramDoc.Diagram.Sequence.Line
import DiagramDoc.Proofs.Diagram.Names

/-! # Pieces of a line

Each reader of a piece is described by what it takes and by what stops it, so that a line can be
put together from its pieces and read again.
-/

namespace DiagramDoc.Sequence

open Text Unicode

variable {cs rest run : List Char}

/-! ### Runs -/

theorem takeBlanks_eq_iff :
    takeBlanks cs = (run, rest) ↔ cs = run ++ rest ∧ IsBlanks run ∧ Stops isBlank rest := by
  rw [takeBlanks, List.span_eq_takeWhile_dropWhile, Prod.mk.injEq]
  constructor
  · rintro ⟨rfl, rfl⟩
    exact ⟨List.takeWhile_append_dropWhile.symm, fun c hc => of_mem_takeWhile hc,
      stops_dropWhile cs⟩
  · rintro ⟨rfl, hrun, hrest⟩
    exact ⟨takeWhile_append hrun hrest, dropWhile_append hrun hrest⟩

theorem takeRun?_eq_some_iff {p : Char → Bool} :
    (match cs.takeWhile p with
      | [] => none
      | found => some (found, cs.dropWhile p)) = some (run, rest) ↔
      cs = run ++ rest ∧ (run ≠ [] ∧ ∀ c ∈ run, p c = true) ∧ Stops p rest := by
  constructor
  · intro h
    split at h
    · cases h
    · next hne =>
      rw [Option.some.injEq, Prod.mk.injEq] at h
      obtain ⟨rfl, rfl⟩ := h
      exact ⟨List.takeWhile_append_dropWhile.symm, ⟨hne, fun c hc => of_mem_takeWhile hc⟩,
        stops_dropWhile cs⟩
  · rintro ⟨rfl, hrun, hrest⟩
    rw [takeWhile_append hrun.2 hrest, dropWhile_append hrun.2 hrest]
    cases run with
    | nil => exact absurd rfl hrun.1
    | cons c run => rfl

theorem takeName?_eq_some_iff :
    takeName? cs = some (run, rest) ↔ cs = run ++ rest ∧ IsName run ∧ Stops isWord rest :=
  takeRun?_eq_some_iff

theorem takeGap?_eq_some_iff :
    takeGap? cs = some (run, rest) ↔ cs = run ++ rest ∧ IsGap run ∧ Stops isBlank rest :=
  takeRun?_eq_some_iff

/-! ### Keywords -/

theorem dropOneOf?_eq_some_iff {keywords : List String}
    (hfree : keywords.Pairwise fun a b => ¬ a.toList <+: b.toList ∧ ¬ b.toList <+: a.toList) :
    dropOneOf? keywords cs = some rest ↔
      ∃ start, cs = start ++ rest ∧ ∃ k ∈ keywords, asciiLower start = k.toList := by
  rw [dropOneOf?]
  constructor
  · intro h
    obtain ⟨k, hk, hdrop⟩ := List.exists_of_findSome?_eq_some h
    obtain ⟨start, rfl, hstart⟩ := dropKeyword_eq_some_iff.1 hdrop
    exact ⟨start, rfl, k, hk, hstart⟩
  · rintro ⟨start, rfl, k, hk, hstart⟩
    induction keywords with
    | nil => cases hk
    | cons first keywords ih =>
      rw [List.findSome?_cons]
      obtain ⟨hfirst, hrest⟩ := List.pairwise_cons.1 hfree
      rcases List.mem_cons.1 hk with rfl | hk
      · rw [dropKeyword_eq_some_iff.2 ⟨start, rfl, hstart⟩]
      · -- an earlier keyword is not here, since none starts like another
        have hnone : dropKeyword first.toList (start ++ rest) = none := by
          rw [Option.eq_none_iff_forall_ne_some]
          intro other hother
          obtain ⟨start', heq, hstart'⟩ := dropKeyword_eq_some_iff.1 hother
          have hprefix : first.toList <+: asciiLower (start ++ rest) := by
            rw [heq, asciiLower_append, hstart']
            exact List.prefix_append _ _
          have hprefix' : k.toList <+: asciiLower (start ++ rest) := by
            rw [asciiLower_append, hstart]
            exact List.prefix_append _ _
          rcases List.prefix_or_prefix_of_prefix hprefix hprefix' with h | h
          · exact (hfirst k hk).1 h
          · exact (hfirst k hk).2 h
        rw [hnone]
        exact ih hrest hk

/-! ### Arrows and signs -/

theorem arrows_eq : arrows = [['<', '<', '-', '-', '>', '>'], ['<', '<', '-', '>', '>'],
    ['-', '-', '>', '>'], ['-', '>', '>'], ['-', '-', '>'], ['-', '>'], ['-', '-', 'x'],
    ['-', '-', ')'], ['-', 'x'], ['-', ')']] := rfl

theorem mem_arrows {arrow : List Char} : arrow ∈ arrows ↔
    arrow = ['<', '<', '-', '-', '>', '>'] ∨ arrow = ['<', '<', '-', '>', '>'] ∨
      arrow = ['-', '-', '>', '>'] ∨ arrow = ['-', '>', '>'] ∨ arrow = ['-', '-', '>'] ∨
      arrow = ['-', '>'] ∨ arrow = ['-', '-', 'x'] ∨ arrow = ['-', '-', ')'] ∨
      arrow = ['-', 'x'] ∨ arrow = ['-', ')'] := by
  rw [arrows_eq]
  simp only [List.mem_cons, List.not_mem_nil, or_false]

theorem takeArrow?_eq_some {arrow : List Char} (h : takeArrow? cs = some (arrow, rest)) :
    cs = arrow ++ rest ∧ arrow ∈ arrows := by
  obtain ⟨found, hfind, heq⟩ := Option.map_eq_some_iff.1 h
  rw [Prod.mk.injEq] at heq
  obtain ⟨rfl, rfl⟩ := heq
  have hprefix := List.find?_some hfind
  rw [List.isPrefixOf_iff_prefix] at hprefix
  exact ⟨(List.prefix_iff_eq_append.1 hprefix).symm, List.mem_of_find?_eq_some hfind⟩

theorem takeArrow?_append {arrow : List Char} (harrow : arrow ∈ arrows)
    (hrest : Stops (· == '>') rest) : takeArrow? (arrow ++ rest) = some (arrow, rest) := by
  have hfind : arrows.find? (·.isPrefixOf (arrow ++ rest)) = some arrow := by
    have hpoint : List.isPrefixOf ['>'] rest = false := by
      cases rest with
      | nil => rfl
      | cons c rest =>
        have hc := stops_cons.1 hrest
        rw [beq_eq_false_iff_ne] at hc
        simp [List.isPrefixOf, hc.symm]
    rw [mem_arrows] at harrow
    rw [arrows_eq]
    rcases harrow with h | h | h | h | h | h | h | h | h | h <;> subst h <;>
      simp [List.isPrefixOf, hpoint]
  rw [takeArrow?, hfind, Option.map_some, List.drop_left]

theorem isSome_takeArrow? {arrow : List Char} (harrow : arrow ∈ arrows) (rest : List Char) :
    (takeArrow? (arrow ++ rest)).isSome = true := by
  rw [takeArrow?, Option.isSome_map, List.find?_isSome]
  exact ⟨arrow, harrow, List.isPrefixOf_iff_prefix.2 (List.prefix_append arrow rest)⟩

theorem head_of_mem_arrows {arrow : List Char} (h : arrow ∈ arrows) :
    ∃ c tail, arrow = c :: tail ∧ c ∈ ['<', '-'] := by
  have hhead : ∀ arrow ∈ arrows, arrow.head? = some '<' ∨ arrow.head? = some '-' := by decide
  rcases hhead arrow h with hc | hc
  · obtain ⟨tail, rfl⟩ := List.head?_eq_some_iff.1 hc
    exact ⟨'<', tail, rfl, by decide⟩
  · obtain ⟨tail, rfl⟩ := List.head?_eq_some_iff.1 hc
    exact ⟨'-', tail, rfl, by decide⟩

theorem stops_of_mem_arrows {arrow : List Char} (h : arrow ∈ arrows) (rest : List Char) :
    Stops isWord (arrow ++ rest) ∧ Stops isBlank (arrow ++ rest) := by
  have hstops : ∀ c ∈ ['<', '-'], isWord c = false ∧ isBlank c = false := by
    rw [List.forall_mem_cons, List.forall_mem_singleton]
    decide
  obtain ⟨c, tail, rfl, hc⟩ := head_of_mem_arrows h
  rw [List.cons_append, stops_cons, stops_cons]
  exact hstops c hc

theorem takeArrow?_cons {c : Char} (h : c ∉ ['<', '-']) : takeArrow? (c :: rest) = none := by
  rw [Option.eq_none_iff_forall_ne_some]
  rintro ⟨arrow, more⟩ heq
  obtain ⟨hcs, harrow⟩ := takeArrow?_eq_some heq
  obtain ⟨d, tail, rfl, hd⟩ := head_of_mem_arrows harrow
  rw [List.cons_append, List.cons.injEq] at hcs
  exact h (hcs.1 ▸ hd)

theorem notMem_arrowHeads_of_isWord {c : Char} (h : isWord c = true) : c ∉ ['<', '-'] := by
  rw [List.mem_cons, List.mem_singleton]
  rintro (rfl | rfl) <;> exact absurd h (by decide)

theorem takeArrow?_of_isName (h : IsName run) : takeArrow? (run ++ rest) = none := by
  obtain ⟨c, run, rfl⟩ := List.exists_cons_of_ne_nil h.1
  exact takeArrow?_cons (notMem_arrowHeads_of_isWord (h.2 c List.mem_cons_self))

def isSign (c : Char) : Bool := c == '+' || c == '-'

theorem isSign_of_isWord (c : Char) (h : isWord c = true) : isSign c = false := by
  rw [isSign, Bool.or_eq_false_iff, beq_eq_false_iff_ne, beq_eq_false_iff_ne]
  constructor
  · rintro rfl
    exact absurd h (by decide)
  · rintro rfl
    exact absurd h (by decide)

theorem takeSign_eq_iff {sign : List Char} :
    takeSign cs = (sign, rest) ↔
      cs = sign ++ rest ∧ (sign = [] ∧ Stops isSign rest ∨ sign = ['+'] ∨ sign = ['-']) := by
  constructor
  · intro h
    unfold takeSign at h
    split at h
    · obtain ⟨rfl, rfl⟩ := Prod.mk.inj h
      exact ⟨rfl, Or.inr (Or.inl rfl)⟩
    · obtain ⟨rfl, rfl⟩ := Prod.mk.inj h
      exact ⟨rfl, Or.inr (Or.inr rfl)⟩
    · next hplus hminus =>
      obtain ⟨rfl, rfl⟩ := Prod.mk.inj h
      refine ⟨rfl, Or.inl ⟨rfl, ?_⟩⟩
      intro c hc
      obtain ⟨tail, rfl⟩ := List.head?_eq_some_iff.1 hc
      rw [isSign, Bool.or_eq_false_iff, beq_eq_false_iff_ne, beq_eq_false_iff_ne]
      exact ⟨fun heq => hplus tail (by rw [heq]), fun heq => hminus tail (by rw [heq])⟩
  · rintro ⟨rfl, ⟨rfl, hrest⟩ | rfl | rfl⟩
    · rw [List.nil_append]
      unfold takeSign
      split
      · exact absurd (stops_cons.1 hrest) (by decide)
      · exact absurd (stops_cons.1 hrest) (by decide)
      · rfl
    · rfl
    · rfl

end DiagramDoc.Sequence
