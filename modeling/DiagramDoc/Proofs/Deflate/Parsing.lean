import DiagramDoc.Deflate.Parse
import DiagramDoc.Proofs.Deflate.Copies

/-! # The tokens of a text describe it

Between two steps the tokens written so far describe the text up to the current position, or up to
the byte in front of it if a copy is held back there. The copy held back is one that could be
written. Each step keeps that, and at the end of the text no copy is left.
-/

namespace DiagramDoc.Deflate

open Inflate

structure Held.IsAt (data : Array UInt8) (pos : Nat) (h : Held) : Prop where
  pos_pos : 0 < pos
  byte_eq : h.byte = byteAt data (pos - 1)
  isCopy : h.found.IsCopy data (pos - 1) windowSize

def written (pos : Nat) (held : Option Held) : Nat :=
  if held.isSome then pos - 1 else pos

structure Move.IsRight (data : Array UInt8) (pos : Nat) (held : Option Held) (m : Move) : Prop where
  distance_pos : 0 < m.distance
  writable : ∀ token ∈ m.tokens, token.IsWritable
  expand : expandAll (data.toList.take (written pos held)) m.tokens =
    some (data.toList.take (written (pos + m.distance) m.held))
  held : ∀ h ∈ m.held, h.IsAt data (pos + m.distance)

variable {data : Array UInt8} {pos : Nat}

theorem Found.IsCopy.mono {window window' : Nat} {f : Found} (h : f.IsCopy data pos window)
    (hle : window ≤ window') : f.IsCopy data pos window' :=
  { h with distance_le_window := h.distance_le_window.trans hle }

theorem expandAll_singleton (out : List UInt8) (token : Token) :
    expandAll out [token] = token.expand out := by
  rw [expandAll, List.foldlM_cons]
  cases token.expand out <;> rfl

theorem expandAll_literal (h : pos < data.size) :
    expandAll (data.toList.take pos) [.literal (byteAt data pos)] =
      some (data.toList.take (pos + 1)) := by
  rw [expandAll_singleton, Token.expand, take_succ_toList h]

theorem expandAll_append (out : List UInt8) (tokens tokens' : List Token) :
    expandAll out (tokens ++ tokens') =
      (expandAll out tokens).bind (expandAll · tokens') := by
  rw [expandAll, List.foldlM_append]
  rfl

/-! ### One step -/

theorem findAt_spec {links : Array Nat} (hlinks : LeadsBack links) {window : Nat}
    {held : Option Held} (hwindow : window ≤ windowSize) (hheld : ∀ h ∈ held, h.IsAt data pos)
    (hpos : pos ≤ data.size) :
    ((findAt data links pos window held).distance = 0 ∧
        ∀ h ∈ held, (findAt data links pos window held).length ≤ h.found.length) ∨
      (findAt data links pos window held).IsCopy data pos windowSize := by
  obtain ⟨least, hleast⟩ : ∃ least, least = held.elim 2 fun h => h.found.length := ⟨_, rfl⟩
  obtain ⟨search, hsearch⟩ : ∃ s, s =
      Search.mk data links pos window (min maxLength (data.size - pos)) := ⟨_, rfl⟩
  have hfind : findAt data links pos window held =
      if (search.run least).isPoor pos then ⟨0, 0⟩ else search.run least := by
    rw [hsearch, hleast]
    cases held <;> rfl
  have htwo : 2 ≤ least := by
    rw [hleast]
    cases held with
    | none => exact Nat.le_refl 2
    | some h => exact Nat.le_of_succ_le (hheld h rfl).isCopy.three_le
  have hfits : search.pos + search.limit ≤ search.data.size := by
    rw [hsearch]
    dsimp only
    omega
  have hbounds : search.limit ≤ maxLength := by
    rw [hsearch]
    exact Nat.min_le_left _ _
  have hlinks' : LeadsBack search.links := by rwa [hsearch]
  have hrun := Search.improves_run hlinks' htwo hbounds hfits
  rw [hfind]
  split
  · exact Or.inl ⟨rfl, fun h _ => Nat.zero_le _⟩
  · rcases hrun with hnothing | ⟨hcopy, -⟩
    · rw [hnothing, hleast]
      refine Or.inl ⟨rfl, ?_⟩
      intro h hh
      rw [Option.mem_def.1 hh]
      rfl
    · rw [hsearch] at hcopy ⊢
      exact Or.inr (hcopy.mono hwindow)

theorem isRight_choose_none {found : Found} (hpos : pos < data.size)
    (hfound : found.distance ≠ 0 → found.IsCopy data pos windowSize) :
    (choose (byteAt data pos) none found).IsRight data pos none := by
  rw [choose]
  split
  · -- nothing is found: a literal
    exact {
      distance_pos := Nat.one_pos
      writable := fun token htoken => by
        obtain rfl := List.mem_singleton.1 htoken
        trivial
      expand := expandAll_literal hpos
      held := fun h hh => by cases hh }
  · next hne =>
    have hcopy := hfound hne
    split
    · -- a long copy is written at once
      exact {
        distance_pos := Nat.lt_of_lt_of_le (by decide) hcopy.three_le
        writable := fun token htoken => by
          obtain rfl := List.mem_singleton.1 htoken
          exact hcopy.isWritable (Nat.le_refl _)
        expand := (expandAll_singleton _ _).trans hcopy.expand
        held := fun h hh => by cases hh }
    · -- a short copy is held back
      exact {
        distance_pos := Nat.one_pos
        writable := fun token htoken => by cases htoken
        expand := rfl
        held := fun h hh => by
          cases hh
          exact ⟨Nat.succ_pos pos, rfl, hcopy⟩ }

theorem isRight_choose_some {h : Held} {found : Found} (hpos : pos < data.size)
    (hheld : h.IsAt data pos)
    (hfound : h.found.length < found.length → found.IsCopy data pos windowSize) :
    (choose (byteAt data pos) (some h) found).IsRight data pos (some h) := by
  have hback : pos - 1 + 1 = pos := Nat.sub_add_cancel hheld.pos_pos
  -- the byte in front, when the copy held back is given up
  have hliteral : expandAll (data.toList.take (pos - 1)) [.literal h.byte] =
      some (data.toList.take pos) := by
    rw [hheld.byte_eq, expandAll_literal (by omega), hback]
  rw [choose]
  split
  · next hlonger =>
    have hcopy := hfound hlonger
    split
    · exact {
        distance_pos := Nat.lt_of_lt_of_le (by decide) hcopy.three_le
        writable := fun token htoken => by
          rcases List.mem_pair.1 htoken with rfl | rfl
          · trivial
          · exact hcopy.isWritable (Nat.le_refl _)
        expand := by
          rw [← List.singleton_append, expandAll_append]
          refine (congrArg (Option.bind · _) hliteral).trans ?_
          rw [Option.bind_some, expandAll_singleton]
          exact hcopy.expand
        held := fun h' hh => by cases hh }
    · exact {
        distance_pos := Nat.one_pos
        writable := fun token htoken => by
          obtain rfl := List.mem_singleton.1 htoken
          trivial
        expand := hliteral
        held := fun h' hh => by
          cases hh
          exact ⟨Nat.succ_pos pos, rfl, hcopy⟩ }
  · have hlength := hheld.isCopy.three_le
    exact {
      distance_pos := by dsimp only; omega
      writable := fun token htoken => by
        obtain rfl := List.mem_singleton.1 htoken
        exact hheld.isCopy.isWritable (Nat.le_refl _)
      expand := by
        rw [expandAll_singleton]
        refine hheld.isCopy.expand.trans ?_
        rw [show pos - 1 + h.found.length = pos + (h.found.length - 1) by omega]
        rfl
      held := fun h' hh => by cases hh }

/-- **A step keeps what holds between two steps.** -/
theorem isRight_choose {links : Array Nat} (hlinks : LeadsBack links) {window : Nat}
    {held : Option Held} (hwindow : window ≤ windowSize) (hheld : ∀ h ∈ held, h.IsAt data pos)
    (hpos : pos < data.size) :
    (choose (byteAt data pos) held (findAt data links pos window held)).IsRight data pos held := by
  have hfind := findAt_spec hlinks hwindow hheld hpos.le
  cases held with
  | none =>
    apply isRight_choose_none hpos
    intro hne
    exact hfind.resolve_left fun hnothing => hne hnothing.1
  | some h =>
    apply isRight_choose_some hpos (hheld h rfl)
    intro hlonger
    exact hfind.resolve_left fun hnothing => Nat.not_lt.2 (hnothing.2 h rfl) hlonger

/-! ### All steps -/

theorem eq_none_of_size_le {held : Option Held} (hheld : ∀ h ∈ held, h.IsAt data pos)
    (hend : data.size ≤ pos) : held = none := by
  cases held with
  | none => rfl
  | some h =>
    have hat := hheld h rfl
    have hfits := hat.isCopy.fits
    have hlength := hat.isCopy.three_le
    have hpos := hat.pos_pos
    omega

theorem expandAll_nil_of_size_le {held : Option Held} (hheld : ∀ h ∈ held, h.IsAt data pos)
    (hend : data.size ≤ pos) :
    expandAll (data.toList.take (written pos held)) [] = some data.toList := by
  rw [eq_none_of_size_le hheld hend, written, expandAll, List.foldlM_nil]
  simp [List.take_of_length_le, hend]

/-- **The steps from a position describe the rest of the text.** -/
theorem stepsFrom_spec {links : Array Nat} (hlinks : LeadsBack links) {fuel : Nat}
    (window : Nat) {held : Option Held} (hfuel : data.size ≤ pos + fuel)
    (hheld : ∀ h ∈ held, h.IsAt data pos) :
    expandAll (data.toList.take (written pos held))
        ((stepsFrom data links fuel pos window held).flatMap Step.tokens) = some data.toList ∧
      ∀ step ∈ stepsFrom data links fuel pos window held,
        step.window ≤ windowSize ∧ ∀ token ∈ step.tokens, token.IsWritable := by
  induction fuel generalizing pos window held with
  | zero => exact ⟨expandAll_nil_of_size_le hheld hfuel, fun step hstep => by cases hstep⟩
  | succ fuel ih =>
    rw [stepsFrom]
    split
    · next hend => exact ⟨expandAll_nil_of_size_le hheld hend, fun step hstep => by cases hstep⟩
    · next hmore =>
      dsimp only
      obtain ⟨room, hroom⟩ : ∃ room, room =
        min (windowSize - min maxLength (data.size - pos)) window := ⟨_, rfl⟩
      have hwindow : room ≤ windowSize := by omega
      have hmove := isRight_choose hlinks hwindow hheld (Nat.lt_of_not_le hmore)
      have hpos := hmove.distance_pos
      rw [← hroom]
      obtain ⟨move, heq⟩ : ∃ move, move =
        choose (byteAt data pos) held (findAt data links pos room held) := ⟨_, rfl⟩
      rw [← heq] at hmove hpos ⊢
      have hrest := ih (min windowSize (room + move.distance)) (by omega) hmove.held
      constructor
      · rw [List.flatMap_cons, expandAll_append, hmove.expand, Option.bind_some]
        exact hrest.1
      · intro step hstep
        rcases List.mem_cons.1 hstep with rfl | hstep
        · exact ⟨Nat.min_le_left _ _, hmove.writable⟩
        · exact hrest.2 step hstep

end DiagramDoc.Deflate
