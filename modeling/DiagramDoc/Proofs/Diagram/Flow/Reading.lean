import DiagramDoc.Diagram.Flow.Token
import DiagramDoc.Proofs.Diagram.Names

/-! # What the readers of a flowchart find

A text between marks and a quoted label depend on nothing behind them. An unquoted label depends on
the next bracket only, and where no label is found the same holds.
-/

namespace DiagramDoc.Flow

open Text Unicode

variable {kind : LabelKind} {cs label rest : List Char}

/-! ### Texts between marks -/

theorem takeEnclosed?_eq_some_iff {close : Char} {stop : Char → Bool} {text : List Char}
    (hclose : stop close = true) :
    takeEnclosed? close stop cs = some (text, rest) ↔
      ∃ inner, text = inner ++ [close] ∧ cs = text ++ rest ∧ ∀ c ∈ inner, stop c = false := by
  rw [takeEnclosed?]
  constructor
  · intro h
    have hcut := List.takeWhile_append_dropWhile (p := fun c => !stop c) (l := cs)
    split at h
    · next c after hdrop =>
      rw [hdrop] at hcut
      split at h
      · next hc =>
        rw [Option.some.injEq, Prod.mk.injEq] at h
        obtain ⟨rfl, rfl⟩ := h
        refine ⟨_, by rw [hc], by simp [hcut], ?_⟩
        intro d hd
        have hstop := of_mem_takeWhile hd
        simpa using hstop
      · cases h
    · cases h
  · rintro ⟨inner, rfl, rfl, hinner⟩
    have hrun : ∀ c ∈ inner, (!stop c) = true := by
      intro c hc
      rw [hinner c hc]
      rfl
    have hstops : Stops (fun c => !stop c) (close :: rest) := stops_cons.2 (by simp [hclose])
    rw [List.append_assoc, List.singleton_append, dropWhile_append hrun hstops,
      takeWhile_append hrun hstops]
    exact if_pos rfl

/-! ### Quoted labels -/

theorem takeQuotedLabel?_of_head (h : cs.head? ≠ some '"') : takeQuotedLabel? kind cs = none := by
  unfold takeQuotedLabel?
  split
  · exact absurd rfl h
  · rfl

theorem takeQuotedLabel?_pair {inner : List Char} (h : '"' ∉ inner) :
    takeQuotedLabel? kind ('"' :: (inner ++ '"' :: rest)) =
      if rest.head? = some kind.closing then some ('"' :: inner ++ ['"'], rest.tail) else none := by
  have hrun : ∀ c ∈ inner, decide (c ≠ '"') = true := by
    intro c hc
    rw [decide_eq_true_eq]
    rintro rfl
    exact h hc
  have hstops : Stops (fun c => decide (c ≠ '"')) ('"' :: rest) := stops_cons.2 (by decide)
  rw [takeQuotedLabel?, dropWhile_append hrun hstops, takeWhile_append hrun hstops]
  cases rest with
  | nil => rfl
  | cons c rest => simp

theorem takeQuotedLabel?_single (h : '"' ∉ cs) : takeQuotedLabel? kind ('"' :: cs) = none := by
  have hrun : ∀ c ∈ cs, decide (c ≠ '"') = true := by
    intro c hc
    rw [decide_eq_true_eq]
    rintro rfl
    exact h hc
  have hall := dropWhile_append hrun stops_nil
  rw [List.append_nil] at hall
  rw [takeQuotedLabel?, hall]

theorem takeQuotedLabel?_eq_some_iff :
    takeQuotedLabel? kind cs = some (label, rest) ↔
      ∃ inner, '"' ∉ inner ∧ label = '"' :: inner ++ ['"'] ∧
        cs = label ++ kind.closing :: rest := by
  constructor
  · intro h
    by_cases hhead : cs.head? = some '"'
    · obtain ⟨tail, rfl⟩ := List.head?_eq_some_iff.1 hhead
      by_cases hmem : '"' ∈ tail
      · obtain ⟨inner, after, rfl, hinner⟩ := List.eq_append_cons_of_mem hmem
        rw [takeQuotedLabel?_pair hinner] at h
        split at h
        · next hclosing =>
          obtain ⟨more, rfl⟩ := List.head?_eq_some_iff.1 hclosing
          rw [Option.some.injEq, Prod.mk.injEq] at h
          obtain ⟨rfl, rfl⟩ := h
          exact ⟨inner, hinner, rfl, by simp⟩
        · cases h
      · rw [takeQuotedLabel?_single hmem] at h
        cases h
    · rw [takeQuotedLabel?_of_head hhead] at h
      cases h
  · rintro ⟨inner, hinner, rfl, rfl⟩
    have hpair : takeQuotedLabel? kind ('"' :: (inner ++ '"' :: kind.closing :: rest)) = _ :=
      takeQuotedLabel?_pair hinner
    simpa using hpair

/-! ### Unquoted labels -/

theorem LabelKind.allows_closing (kind : LabelKind) : kind.allows kind.closing = false := by
  cases kind <;> decide

theorem takeBareLabel?_eq_some_iff :
    takeBareLabel? kind cs = some (label, rest) ↔
      cs = label ++ kind.closing :: rest ∧ ∀ c ∈ label, kind.allows c = true := by
  rw [takeBareLabel?]
  constructor
  · intro h
    have hcut := List.takeWhile_append_dropWhile (p := kind.allows) (l := cs)
    split at h
    · next c after hdrop =>
      rw [hdrop] at hcut
      split at h
      · next hc =>
        rw [Option.some.injEq, Prod.mk.injEq] at h
        obtain ⟨rfl, rfl⟩ := h
        rw [hc] at hcut
        exact ⟨hcut.symm, fun d hd => of_mem_takeWhile hd⟩
      · cases h
    · cases h
  · rintro ⟨rfl, hlabel⟩
    have hstops : Stops kind.allows (kind.closing :: rest) := stops_cons.2 kind.allows_closing
    rw [dropWhile_append hlabel hstops, takeWhile_append hlabel hstops]
    exact if_pos rfl

theorem takeBareLabel?_eq_none_iff :
    takeBareLabel? kind cs = none ↔ cs.find? (fun c => !kind.allows c) ≠ some kind.closing := by
  rw [← not_iff_not, not_not, ← Ne, Option.ne_none_iff_exists', List.find?_eq_some_iff_append]
  constructor
  · rintro ⟨⟨label, rest⟩, h⟩
    obtain ⟨rfl, hlabel⟩ := takeBareLabel?_eq_some_iff.1 h
    refine ⟨by simp [kind.allows_closing], label, rest, rfl, ?_⟩
    intro c hc
    simp [hlabel c hc]
  · rintro ⟨-, label, rest, rfl, hlabel⟩
    refine ⟨(label, rest), takeBareLabel?_eq_some_iff.2 ⟨rfl, ?_⟩⟩
    intro c hc
    simpa using hlabel c hc

/-! ### Labels -/

theorem takeLabel?_cons (cs : List Char) :
    takeLabel? kind (kind.opening :: cs) = (takeQuotedLabel? kind cs).or (takeBareLabel? kind cs) := by
  simp [takeLabel?]

theorem takeLabel?_of_head (h : cs.head? ≠ some kind.opening) : takeLabel? kind cs = none := by
  cases cs with
  | nil => rfl
  | cons c cs =>
    apply if_neg
    rintro rfl
    exact h rfl

theorem head?_of_takeLabel? (h : takeLabel? kind cs = some (label, rest)) :
    cs.head? = some kind.opening := by
  by_contra hhead
  rw [takeLabel?_of_head hhead] at h
  cases h

theorem takeLabel?_subgraph_ne_none (h : takeLabel? .square cs = some (label, rest)) :
    takeLabel? .subgraph cs ≠ none := by
  obtain ⟨tail, rfl⟩ := List.head?_eq_some_iff.1 (head?_of_takeLabel? h)
  have hopening : LabelKind.square.opening = LabelKind.subgraph.opening := rfl
  have hclosing : LabelKind.square.closing = LabelKind.subgraph.closing := rfl
  rw [takeLabel?_cons, Option.or_eq_some_iff] at h
  rw [hopening, takeLabel?_cons, Ne, Option.or_eq_none_iff, not_and_or]
  rcases h with h | ⟨-, h⟩
  · obtain ⟨inner, hinner, rfl, rfl⟩ := takeQuotedLabel?_eq_some_iff.1 h
    have hsame : takeQuotedLabel? .subgraph
        ('"' :: inner ++ ['"'] ++ LabelKind.square.closing :: rest) =
          some ('"' :: inner ++ ['"'], rest) :=
      takeQuotedLabel?_eq_some_iff.2 ⟨inner, hinner, rfl, rfl⟩
    rw [hsame]
    exact Or.inl (Option.some_ne_none _)
  · obtain ⟨rfl, hlabel⟩ := takeBareLabel?_eq_some_iff.1 h
    have hsame : takeBareLabel? .subgraph (label ++ LabelKind.square.closing :: rest) =
        some (label, rest) := by
      refine takeBareLabel?_eq_some_iff.2 ⟨rfl, ?_⟩
      intro c hc
      have hsquare := hlabel c hc
      rw [LabelKind.allows, Bool.and_eq_true] at hsquare ⊢
      exact ⟨hsquare.1, rfl⟩
    rw [hsame]
    exact Or.inr (Option.some_ne_none _)

/-! ### Titles -/

theorem takeTitle?_append {gap name after : List Char} (hgap : IsGap gap) (hname : IsName name)
    (hstops : Stops isWord after) : takeTitle? (gap ++ (name ++ after)) =
      (takeLabel? .subgraph after).map fun found => (gap ++ name, found.1, found.2) := by
  have hblank := hname.stops_isBlank after
  rw [takeTitle?, takeWhile_append hgap.2 hblank, dropWhile_append hgap.2 hblank,
    takeWhile_append hname.2 hstops, dropWhile_append hname.2 hstops]
  exact if_neg (not_or.2 ⟨hgap.1, hname.1⟩)

theorem takeTitle?_eq_some_iff {head : List Char} :
    takeTitle? cs = some (head, label, rest) ↔
      ∃ gap name after, cs = gap ++ (name ++ after) ∧ head = gap ++ name ∧ IsGap gap ∧
        IsName name ∧ Stops isWord after ∧ takeLabel? .subgraph after = some (label, rest) := by
  constructor
  · intro h
    have hgap := List.takeWhile_append_dropWhile (p := isBlank) (l := cs)
    have hname := List.takeWhile_append_dropWhile (p := isWord) (l := cs.dropWhile isBlank)
    rw [takeTitle?] at h
    split at h
    · cases h
    · next hne =>
      obtain ⟨⟨found, after⟩, hfound, heq⟩ := Option.map_eq_some_iff.1 h
      rw [Prod.mk.injEq, Prod.mk.injEq] at heq
      obtain ⟨rfl, rfl, rfl⟩ := heq
      rw [not_or] at hne
      refine ⟨_, _, _, ?_, rfl, ⟨hne.1, fun c hc => of_mem_takeWhile hc⟩,
        ⟨hne.2, fun c hc => of_mem_takeWhile hc⟩, stops_dropWhile _, hfound⟩
      rw [hname, hgap]
  · rintro ⟨gap, name, after, rfl, rfl, hgap, hname, hstops, hfound⟩
    rw [takeTitle?_append hgap hname hstops, hfound]
    rfl

theorem takeTitle?_of_stops {gap : List Char} (hgap : IsBlanks gap) (hblank : Stops isBlank cs)
    (h : gap = [] ∨ Stops isWord cs) : takeTitle? (gap ++ cs) = none := by
  rw [takeTitle?, takeWhile_append hgap hblank, dropWhile_append hgap hblank]
  apply if_pos
  rcases h with h | h
  · exact Or.inl h
  · right
    have hnone : ∀ c ∈ ([] : List Char), isWord c = true := by simp
    exact takeWhile_append hnone h

/-! ### Words -/

inductive Reads (word cs : List Char) : Token → List Char → Prop
  | title {head label rest : List Char} (hword : word = "subgraph".toList)
      (h : takeTitle? cs = some (head, label, rest)) :
      Reads word cs (.label .subgraph (word ++ head) label) rest
  | square {label rest : List Char} (htitle : word = "subgraph".toList → takeTitle? cs = none)
      (h : takeLabel? .square cs = some (label, rest)) :
      Reads word cs (.label .square word label) rest
  | styled {label rest : List Char} (htitle : word = "subgraph".toList → takeTitle? cs = none)
      (h : takeLabel? .round cs = some (label, rest))
      (hstyle : styleKeywords.contains word = true) :
      Reads word cs (.plain (word ++ ['('] ++ label ++ [')'])) rest
  | round {label rest : List Char} (htitle : word = "subgraph".toList → takeTitle? cs = none)
      (h : takeLabel? .round cs = some (label, rest))
      (hstyle : styleKeywords.contains word = false) :
      Reads word cs (.label .round word label) rest
  | plain (htitle : word = "subgraph".toList → takeTitle? cs = none)
      (hsquare : takeLabel? .square cs = none) (hround : takeLabel? .round cs = none) :
      Reads word cs (.plain word) cs

theorem reads_wordToken (word cs : List Char) :
    Reads word cs (wordToken word cs).1 (wordToken word cs).2 := by
  rw [wordToken]
  split
  · next head label rest h =>
    split at h
    · next hword => exact .title hword h
    · cases h
  · next h =>
    have htitle : word = "subgraph".toList → takeTitle? cs = none := by
      intro hword
      rwa [if_pos hword] at h
    split
    · next label rest hsquare => exact .square htitle hsquare
    · next hsquare =>
      split
      · next label rest hround =>
        split
        · next hstyle => exact .styled htitle hround hstyle
        · next hstyle => exact .round htitle hround (by simpa using hstyle)
      · next hround => exact .plain htitle hsquare hround

theorem Reads.wordToken_eq {word : List Char} {t : Token} (h : Reads word cs t rest) :
    wordToken word cs = (t, rest) := by
  have hopening : LabelKind.round.opening ≠ LabelKind.square.opening := by decide
  have hother {label rest : List Char} (hround : takeLabel? .round cs = some (label, rest)) :
      takeLabel? .square cs = none := by
    apply takeLabel?_of_head
    rw [head?_of_takeLabel? hround]
    exact fun heq => hopening (Option.some.inj heq)
  have hnone (htitle : word = "subgraph".toList → takeTitle? cs = none) :
      (if word = "subgraph".toList then takeTitle? cs else none) = none := by
    split
    · next hword => exact htitle hword
    · rfl
  cases h with
  | title hword h => rw [wordToken, if_pos hword, h]
  | square htitle h => rw [wordToken, hnone htitle, h]
  | styled htitle h hstyle =>
    rw [wordToken, hnone htitle, hother h, h]
    simp only [hstyle, if_true]
  | round htitle h hstyle =>
    rw [wordToken, hnone htitle, hother h, h]
    simp only [hstyle, Bool.false_eq_true, if_false]
  | plain htitle hsquare hround => rw [wordToken, hnone htitle, hsquare, hround]

end DiagramDoc.Flow
