import DiagramDoc.Deflate.Stream
import DiagramDoc.Proofs.Deflate.Blocks
import DiagramDoc.Proofs.Deflate.Parsing

/-! # A compressed text is read back

The blocks cut the tokens of a text into parts. Tokens only ever add to the text, so each part
describes the bytes that its block says it does.
-/

namespace DiagramDoc.Deflate

open Inflate

/-! ### Tokens add to the text -/

theorem exists_append_of_copyBack {distance length : Nat} {out out' : List UInt8}
    (h : copyBack distance length out = some out') :
    ∃ more, out' = out ++ more ∧ more.length = length := by
  induction length generalizing out with
  | zero =>
    obtain rfl : out = out' := by simpa [copyBack] using h
    exact ⟨[], (List.append_nil out).symm, rfl⟩
  | succ length ih =>
    rw [copyBack] at h
    split at h
    · obtain ⟨byte, -, hrest⟩ := Option.bind_eq_some_iff.1 h
      obtain ⟨more, rfl, hmore⟩ := ih hrest
      exact ⟨byte :: more, by simp, by simp [hmore]⟩
    · cases h

theorem exists_append_of_expandAll {tokens : List Token} {out out' : List UInt8}
    (h : expandAll out tokens = some out') :
    ∃ more, out' = out ++ more ∧ more.length = (tokens.map Token.width).sum := by
  induction tokens generalizing out with
  | nil =>
    obtain rfl : out = out' := by simpa [expandAll] using h
    exact ⟨[], (List.append_nil out).symm, rfl⟩
  | cons token tokens ih =>
    rw [expandAll, List.foldlM_cons] at h
    obtain ⟨next, hnext, hrest⟩ := Option.bind_eq_some_iff.1 h
    obtain ⟨more, rfl, hmore⟩ := ih hrest
    have hfirst : ∃ first, next = out ++ first ∧ first.length = token.width := by
      cases token with
      | literal byte => exact ⟨[byte], by simpa [Token.expand] using hnext.symm, rfl⟩
      | copy length distance => exact exists_append_of_copyBack hnext
    obtain ⟨first, rfl, hlen⟩ := hfirst
    exact ⟨first ++ more, List.append_assoc .., by simp [hlen, hmore]⟩

/-- Tokens in two parts: the first part gives a part of the bytes, as many as it is wide. -/
theorem expandAll_take {first second : List Token} {out data : List UInt8}
    (h : expandAll out (first ++ second) = some (out ++ data)) :
    expandAll out first = some (out ++ data.take (first.map Token.width).sum) ∧
      expandAll (out ++ data.take (first.map Token.width).sum) second =
        some (out ++ data.take (first.map Token.width).sum ++
          data.drop (first.map Token.width).sum) := by
  rw [expandAll_append] at h
  obtain ⟨middle, hmiddle, hrest⟩ := Option.bind_eq_some_iff.1 h
  obtain ⟨start, rfl, hstart⟩ := exists_append_of_expandAll hmiddle
  obtain ⟨finish, heq, -⟩ := exists_append_of_expandAll hrest
  rw [List.append_assoc] at heq
  obtain rfl := List.append_cancel_left heq
  rw [← hstart, List.take_left, List.drop_left, List.append_assoc]
  exact ⟨hmiddle, hrest⟩

/-! ### Gathering -/

structure Gathered.IsRight (g : Gathered) : Prop where
  width_eq : g.width = (g.tokens.map Token.width).sum
  writable : ∀ token ∈ g.tokens, token.IsWritable

theorem Gathered.isRight_empty : Gathered.empty.IsRight := ⟨rfl, fun token h => by cases h⟩

theorem Gathered.tokens_foldl_add (g : Gathered) (tokens : List Token) :
    (tokens.foldl Gathered.add g).tokens = tokens.reverse ++ g.tokens := by
  induction tokens generalizing g with
  | nil => rfl
  | cons token tokens ih => simp [ih, Gathered.add]

theorem Gathered.IsRight.foldl_add {g : Gathered} {tokens : List Token} (h : g.IsRight)
    (hwritable : ∀ token ∈ tokens, token.IsWritable) :
    (tokens.foldl Gathered.add g).IsRight := by
  induction tokens generalizing g with
  | nil => exact h
  | cons token tokens ih =>
    refine ih ⟨?_, ?_⟩ fun t ht => hwritable t (List.mem_cons_of_mem _ ht)
    · simp [Gathered.add, h.width_eq, Nat.add_comm]
    · intro t ht
      rcases List.mem_cons.1 ht with rfl | ht
      · exact hwritable t List.mem_cons_self
      · exact h.writable t ht

theorem sum_width_reverse (tokens : List Token) :
    (tokens.reverse.map Token.width).sum = (tokens.map Token.width).sum := by
  rw [List.map_reverse, List.sum_reverse]

/-! ### The blocks of a text -/

/-- **The blocks say the truth**, and their bytes are the text. -/
theorem areSound_blocksFrom {steps : List Step} {data out : List UInt8} {g : Gathered}
    {window : Nat} (hg : g.IsRight) (hwindow : window ≤ windowSize)
    (hsteps : ∀ step ∈ steps, step.window ≤ windowSize ∧
      ∀ token ∈ step.tokens, token.IsWritable)
    (hexpand : expandAll out (g.tokens.reverse ++ steps.flatMap Step.tokens) =
      some (out ++ data)) :
    AreSound out (blocksFrom data g window steps) ∧
      (blocksFrom data g window steps).flatMap Block.data = data := by
  induction steps generalizing data out g window with
  | nil =>
    rw [List.flatMap_nil, List.append_nil] at hexpand
    obtain ⟨more, hmore, hlen⟩ := exists_append_of_expandAll hexpand
    obtain rfl := List.append_cancel_left hmore
    rw [sum_width_reverse, ← hg.width_eq] at hlen
    have hall : data.take g.width = data := List.take_of_length_le hlen.le
    rw [blocksFrom, hall]
    refine ⟨⟨⟨?_, hexpand, hwindow⟩, trivial⟩, by simp⟩
    exact fun token htoken => hg.writable token (List.mem_reverse.1 htoken)
  | cons step steps ih =>
    obtain ⟨hstep, hsteps'⟩ := List.forall_mem_cons.1 hsteps
    rw [blocksFrom]
    obtain ⟨next, hnext⟩ : ∃ next, next = step.tokens.foldl Gathered.add g := ⟨_, rfl⟩
    have hright : next.IsRight := by
      rw [hnext]
      exact hg.foldl_add hstep.2
    have htokens : next.tokens.reverse ++ steps.flatMap Step.tokens =
        g.tokens.reverse ++ (step :: steps).flatMap Step.tokens := by
      rw [hnext, Gathered.tokens_foldl_add, List.reverse_append, List.reverse_reverse,
        List.append_assoc, List.flatMap_cons]
    rw [← htokens] at hexpand
    rw [← hnext]
    split
    · -- a block is due: what it describes is cut off
      obtain ⟨hfirst, hrest⟩ := expandAll_take hexpand
      rw [sum_width_reverse, ← hright.width_eq] at hfirst hrest
      obtain ⟨hsound, hdata⟩ := ih Gathered.isRight_empty hstep.1 hsteps' hrest
      refine ⟨⟨⟨?_, hfirst, hstep.1⟩, hsound⟩, ?_⟩
      · exact fun token htoken => hright.writable token (List.mem_reverse.1 htoken)
      · rw [List.flatMap_cons, hdata, List.take_append_drop]
    · exact ih hright hstep.1 hsteps' hexpand

theorem blocksFrom_ne_nil (data : List UInt8) (g : Gathered) (window : Nat) (steps : List Step) :
    blocksFrom data g window steps ≠ [] := by
  induction steps generalizing data g window with
  | nil => exact List.cons_ne_nil _ _
  | cons step steps ih =>
    rw [blocksFrom]
    split
    · exact List.cons_ne_nil _ _
    · exact ih _ _ _

theorem areSound_blocks (data : List UInt8) :
    AreSound [] (blocks data) ∧ (blocks data).flatMap Block.data = data := by
  have hfuel : data.toArray.size ≤ 0 + data.toArray.size := (Nat.zero_add _).ge
  obtain ⟨hexpand, hsteps⟩ := stepsFrom_spec (leadsBack_links data.toArray) 0 hfuel
    (fun h hh => nomatch hh : ∀ h ∈ (none : Option Held), h.IsAt data.toArray 0)
  exact areSound_blocksFrom Gathered.isRight_empty (Nat.zero_le _) hsteps hexpand

/-- **A compressed text is read back**, whatever bytes follow it. Behind its final block are the
zeros that fill up its last byte. -/
theorem inflate_compress_append (data more : List UInt8) :
    inflate (compress data ++ more) =
      some (data, filler (blocksBits 0 (blocks data)).length ++ bitsOfBytes more) := by
  obtain ⟨hsound, hdata⟩ := areSound_blocks data
  have hbits : bitsOfBytes (compress data ++ more) = blocksBits 0 (blocks data) ++
      (filler (blocksBits 0 (blocks data)).length ++ bitsOfBytes more) := by
    rw [bitsOfBytes_append, compress, bitsOfBytes_packBits, List.append_assoc]
  have haligned : (0 + (blocksBits 0 (blocks data) ++
      (filler (blocksBits 0 (blocks data)).length ++ bitsOfBytes more)).length) % 8 = 0 := by
    rw [← hbits, length_bitsOfBytes]
    omega
  have hbound : (blocks data).length ≤ (bitsOfBytes (compress data ++ more)).length := by
    rw [hbits, List.length_append]
    exact Nat.le_add_right_of_le (length_le_length_blocksBits 0 _)
  have hne : blocks data ≠ [] := blocksFrom_ne_nil _ _ _ _
  have hread := readBlocks_blocksBits _ hne hsound haligned hbound
  rwa [← hbits, hdata, List.nil_append] at hread

end DiagramDoc.Deflate
