import DiagramDoc.Proofs.Diagram.Flow.Labels
import DiagramDoc.Proofs.Diagram.Flow.Reading

/-! # Scanning a repaired source

A repair changes quotes and white space inside labels and nothing else, so a second scan finds the
same brackets and the same first characters. It may only go wrong where the first scan looked for
the partner of a quote or a bar and found none: such a mark may find one among the quotes that the
repair has written, or behind a line feed that the repair has removed. If nothing behind such marks
was repaired, the second scan finds the repaired tokens of the first.
-/

namespace DiagramDoc.Flow

open Text Unicode

/-- The source with its labels in quotes. -/
def requoted (cs : List Char) : List Char := (tokens cs).flatMap fun t => t.repaired.text

/-- A text that starts with its only quote. -/
def opensQuote (cs : List Char) : Bool := cs.head? == some '"' && cs.count '"' == 1

/-- A token with a mark that has found no partner: a bar or a quote alone, or a label that starts
with its only quote and stays as it is, behind a styling word, too. -/
def Token.isLoose : Token → Bool
  | plain text => text == ['|'] || opensQuote text ||
      (text.head?.any isWord && opensQuote ((text.dropWhile isWord).drop 1))
  | label kind _ content => (quoteLabel? kind content).isNone && opensQuote content

/-- Behind a loose mark nothing is repaired. -/
def IsSettled (cs : List Char) : Prop :=
  (tokens cs).Pairwise fun t u => t.isLoose = true → u.repaired = u

instance (cs : List Char) : Decidable (IsSettled cs) :=
  inferInstanceAs (Decidable (List.Pairwise _ _))

/-! ### One token and the rest -/

theorem tokens_cons (c : Char) (cs : List Char) :
    tokens (c :: cs) = (firstToken c cs).1 :: tokens (firstToken c cs).2 := by
  rw [tokens]

theorem requoted_nil : requoted [] = [] := by
  rw [requoted, tokens, List.flatMap_nil]

theorem requoted_cons (c : Char) (cs : List Char) :
    requoted (c :: cs) = (firstToken c cs).1.repaired.text ++ requoted (firstToken c cs).2 := by
  rw [requoted, tokens_cons, List.flatMap_cons, requoted]

theorem requoted_of_forall {cs : List Char} (h : ∀ t ∈ tokens cs, t.repaired = t) :
    requoted cs = cs := by
  have htexts : requoted cs = (tokens cs).flatMap Token.text := by
    apply List.flatMap_congr
    intro t ht
    rw [h t ht]
  rw [htexts, flatMap_text_tokens]

theorem IsSettled.rest {c : Char} {cs : List Char} (h : IsSettled (c :: cs)) :
    IsSettled (firstToken c cs).2 := by
  rw [IsSettled, tokens_cons] at h
  exact h.of_cons

theorem IsSettled.requoted_of_isLoose {c : Char} {cs : List Char} (h : IsSettled (c :: cs))
    (hloose : (firstToken c cs).1.isLoose = true) :
    requoted (firstToken c cs).2 = (firstToken c cs).2 := by
  rw [IsSettled, tokens_cons, List.pairwise_cons] at h
  apply requoted_of_forall
  intro t ht
  exact h.1 t ht hloose

/-! ### First tokens by their first character -/

theorem firstToken_comment {cs : List Char} (h : cs.head? = some '%') :
    firstToken '%' cs = (.plain ('%' :: cs.takeWhile (· ≠ '\n')), cs.dropWhile (· ≠ '\n')) := by
  rw [firstToken, if_pos ⟨rfl, h⟩]

theorem firstToken_bar (cs : List Char) :
    firstToken '|' cs =
      match takeEnclosed? '|' (fun c => c = '|' || c = '\n') cs with
      | some (text, rest) => (.plain ('|' :: text), rest)
      | none => (.plain ['|'], cs) := by
  have hcomment : ¬ ('|' = '%' ∧ cs.head? = some '%') := fun h => absurd h.1 (by decide)
  exact (if_neg hcomment).trans (if_pos rfl)

theorem firstToken_quote (cs : List Char) :
    firstToken '"' cs =
      match takeEnclosed? '"' (fun c => c = '"' || c = '\n' || c = '|') cs with
      | some (text, rest) => (.plain ('"' :: text), rest)
      | none => (.plain ['"'], cs) := by
  have hcomment : ¬ ('"' = '%' ∧ cs.head? = some '%') := fun h => absurd h.1 (by decide)
  have hbar : ¬ '"' = '|' := by decide
  exact (if_neg hcomment).trans ((if_neg hbar).trans (if_pos rfl))

theorem firstToken_word {c : Char} (h : isWord c = true) (cs : List Char) :
    firstToken c cs = wordToken (c :: cs.takeWhile isWord) (cs.dropWhile isWord) := by
  have hne {d : Char} (hd : isWord d = false) : c ≠ d := by
    rintro rfl
    rw [h] at hd
    cases hd
  rw [firstToken, if_neg fun hc => hne (by decide) hc.1, if_neg (hne (by decide)),
    if_neg (hne (by decide)), if_pos h]

theorem firstToken_other {c : Char} {cs : List Char}
    (hcomment : ¬ (c = '%' ∧ cs.head? = some '%')) (hbar : c ≠ '|') (hquote : c ≠ '"')
    (hword : isWord c = false) : firstToken c cs = (.plain [c], cs) := by
  rw [firstToken, if_neg hcomment, if_neg hbar, if_neg hquote, if_neg (by simp [hword])]

theorem firstToken_opening (kind : LabelKind) (cs : List Char) :
    firstToken kind.opening cs = (.plain [kind.opening], cs) := by
  cases kind <;>
    exact firstToken_other (fun h => absurd h.1 (by decide)) (by decide) (by decide) (by decide)

theorem requoted_plain {c : Char} {cs : List Char}
    (h : firstToken c cs = (.plain [c], cs)) : requoted (c :: cs) = c :: requoted cs := by
  rw [requoted_cons, h]
  rfl

/-! ### What a repair leaves alone -/

theorem Token.head?_text_repaired (t : Token) : t.repaired.text.head? = t.text.head? := by
  cases t with
  | plain text => rfl
  | label kind head content =>
    simp only [Token.repaired, Token.text, List.append_assoc, List.head?_append,
      List.head?_singleton, Option.some_or]

theorem Token.filter_text_repaired (t : Token) :
    t.repaired.text.filter isBracket = t.text.filter isBracket := by
  cases t with
  | plain text => rfl
  | label kind head content =>
    have hcontent : ((quoteLabel? kind content).getD content).filter isBracket =
        content.filter isBracket := by
      rw [quoteLabel?]
      split
      · rfl
      · exact filter_isBracket_quoted content
    simp only [Token.repaired, Token.text, List.filter_append, hcontent]

theorem filter_requoted (cs : List Char) :
    (requoted cs).filter isBracket = cs.filter isBracket := by
  conv => rhs; rw [← flatMap_text_tokens cs]
  rw [requoted, List.filter_flatMap, List.filter_flatMap]
  apply List.flatMap_congr
  intro t _
  exact t.filter_text_repaired

theorem text_firstToken_ne_nil (c : Char) (cs : List Char) : (firstToken c cs).1.text ≠ [] := by
  intro hnil
  have hcut := congrArg List.length (firstToken_text c cs)
  have hshort := length_firstToken_le c cs
  rw [hnil, List.nil_append, List.length_cons] at hcut
  omega

theorem head?_requoted (cs : List Char) : (requoted cs).head? = cs.head? := by
  cases cs with
  | nil => rw [requoted_nil]
  | cons c cs =>
    obtain ⟨d, text, htext⟩ := List.exists_cons_of_ne_nil (text_firstToken_ne_nil c cs)
    have hhead := (firstToken c cs).1.head?_text_repaired
    have hcut := firstToken_text c cs
    rw [htext, List.cons_append, List.cons.injEq] at hcut
    rw [htext, List.head?_cons, hcut.1] at hhead
    rw [requoted_cons, List.head?_append, hhead]
    rfl

theorem stops_requoted {p : Char → Bool} {cs : List Char} (h : Stops p cs) :
    Stops p (requoted cs) := by
  rw [Stops, head?_requoted]
  exact h

/-! ### Where no label is found -/

theorem LabelKind.isBracket_of_allows {kind : LabelKind} {c : Char}
    (h : kind.allows c = false) : isBracket c = true := by
  by_contra hnone
  rw [Bool.not_eq_true] at hnone
  simp only [isBracket, Bool.or_eq_false_iff, beq_eq_false_iff_ne] at hnone
  obtain ⟨⟨⟨hleft, hright⟩, hopen⟩, hclose⟩ := hnone
  cases kind <;> simp [LabelKind.allows, LabelKind.closing, LabelKind.opening, *] at h

theorem takeBareLabel?_requoted {kind : LabelKind} {cs : List Char}
    (h : takeBareLabel? kind cs = none) : takeBareLabel? kind (requoted cs) = none := by
  have hfind (xs : List Char) : xs.find? (fun c => !kind.allows c) =
      (xs.filter isBracket).find? fun c => !kind.allows c := by
    rw [List.find?_filter]
    congr 1
    funext c
    cases hc : kind.allows c with
    | false => rw [kind.isBracket_of_allows hc]; rfl
    | true => simp
  rw [takeBareLabel?_eq_none_iff, hfind] at h ⊢
  rwa [filter_requoted]

theorem takeQuotedLabel?_requoted {kind : LabelKind} {cs : List Char} (hsettled : IsSettled cs)
    (h : takeQuotedLabel? kind cs = none) : takeQuotedLabel? kind (requoted cs) = none := by
  by_cases hhead : cs.head? = some '"'
  · obtain ⟨tail, rfl⟩ := List.head?_eq_some_iff.1 hhead
    have hfirst := firstToken_quote tail
    split at hfirst
    · -- the partner of the quote is found in both scans, and behind it stands the same character
      next text rest henclosed =>
      obtain ⟨inner, rfl, rfl, hinner⟩ := (takeEnclosed?_eq_some_iff (by decide)).1 henclosed
      have hquote : '"' ∉ inner := by
        intro hmem
        have hstop := hinner _ hmem
        revert hstop
        decide
      rw [List.append_assoc, List.singleton_append, takeQuotedLabel?_pair hquote] at h
      rw [requoted_cons, hfirst]
      simp only [Token.repaired, Token.text, List.cons_append, List.append_assoc]
      rw [List.nil_append, takeQuotedLabel?_pair hquote, head?_requoted]
      split
      · next hclosing =>
        rw [if_pos hclosing] at h
        cases h
      · rfl
    · have hrest := hsettled.requoted_of_isLoose (by rw [hfirst]; rfl)
      rw [requoted_cons, hrest, hfirst]
      exact h
  · apply takeQuotedLabel?_of_head
    rwa [head?_requoted]

theorem takeLabel?_requoted {kind : LabelKind} {cs : List Char} (hsettled : IsSettled cs)
    (h : takeLabel? kind cs = none) : takeLabel? kind (requoted cs) = none := by
  by_cases hhead : cs.head? = some kind.opening
  · obtain ⟨tail, rfl⟩ := List.head?_eq_some_iff.1 hhead
    have hfirst := firstToken_opening kind tail
    have hsettled' := hsettled.rest
    rw [hfirst] at hsettled'
    rw [takeLabel?_cons, Option.or_eq_none_iff] at h
    rw [requoted_plain hfirst, takeLabel?_cons, Option.or_eq_none_iff]
    exact ⟨takeQuotedLabel?_requoted hsettled' h.1, takeBareLabel?_requoted h.2⟩
  · apply takeLabel?_of_head
    rwa [head?_requoted]

/-! ### Where a label is found -/

theorem takeLabel?_pair (kind : LabelKind) {inner : List Char} (h : '"' ∉ inner)
    (more : List Char) :
    takeLabel? kind (kind.opening :: ('"' :: inner ++ ['"'] ++ kind.closing :: more)) =
      some ('"' :: inner ++ ['"'], more) := by
  rw [takeLabel?_cons, takeQuotedLabel?_eq_some_iff.2 ⟨inner, h, rfl, rfl⟩, Option.some_or]

/-- A label that stays is read again, whatever is behind it, unless it starts with its only
quote. -/
theorem takeLabel?_kept {kind : LabelKind} {cs content rest : List Char}
    (h : takeLabel? kind cs = some (content, rest)) (hpaired : opensQuote content = false)
    (more : List Char) :
    takeLabel? kind (kind.opening :: (content ++ kind.closing :: more)) =
      some (content, more) := by
  obtain ⟨tail, rfl⟩ := List.head?_eq_some_iff.1 (head?_of_takeLabel? h)
  rw [takeLabel?_cons, Option.or_eq_some_iff] at h
  rcases h with h | ⟨hnone, h⟩
  · obtain ⟨inner, hinner, rfl, rfl⟩ := takeQuotedLabel?_eq_some_iff.1 h
    exact takeLabel?_pair kind hinner more
  · obtain ⟨rfl, hallowed⟩ := takeBareLabel?_eq_some_iff.1 h
    have hbare : takeBareLabel? kind (content ++ kind.closing :: more) = some (content, more) :=
      takeBareLabel?_eq_some_iff.2 ⟨rfl, hallowed⟩
    have hquoted : takeQuotedLabel? kind (content ++ kind.closing :: more) = none := by
      cases content with
      | nil =>
        apply takeQuotedLabel?_of_head
        rw [List.nil_append, List.head?_cons]
        cases kind <;> decide
      | cons c content =>
        by_cases hc : c = '"'
        · -- the second quote is inside the label, and so is the character behind it
          subst hc
          have hsecond : '"' ∈ content := by
            by_contra hmem
            simp [opensQuote, List.count_eq_zero_of_not_mem hmem] at hpaired
          obtain ⟨inner, after, rfl, hinner⟩ := List.eq_append_cons_of_mem hsecond
          rw [List.cons_append, List.append_assoc, List.cons_append,
            takeQuotedLabel?_pair hinner] at hnone ⊢
          cases after with
          | nil => simp at hnone
          | cons d after =>
            have hd := hallowed d (by simp)
            rw [if_neg]
            intro hclosing
            obtain rfl : d = kind.closing := by simpa using hclosing
            rw [kind.allows_closing] at hd
            cases hd
        · apply takeQuotedLabel?_of_head
          simpa using hc
    rw [takeLabel?_cons, hquoted, hbare, Option.none_or]

theorem takeLabel?_repaired {kind : LabelKind} {cs content rest : List Char}
    (h : takeLabel? kind cs = some (content, rest))
    (hpaired : quoteLabel? kind content = none → opensQuote content = false) (more : List Char) :
    takeLabel? kind (kind.opening :: ((quoteLabel? kind content).getD content ++
      kind.closing :: more)) = some ((quoteLabel? kind content).getD content, more) := by
  cases hquote : quoteLabel? kind content with
  | none => exact takeLabel?_kept h (hpaired hquote) more
  | some replaced =>
    obtain ⟨inner, hinner, heq⟩ := exists_quoted_eq content
    rw [Option.getD_some, eq_quoted_of_quoteLabel? hquote, heq]
    exact takeLabel?_pair kind hinner more

/-! ### Words -/

theorem firstToken_name {word cs : List Char} (hword : IsName word) (hcs : Stops isWord cs) :
    ∃ c tail, word ++ cs = c :: tail ∧ isWord c = true ∧ firstToken c tail = wordToken word cs := by
  obtain ⟨c, word, rfl⟩ := List.exists_cons_of_ne_nil hword.1
  have hc := hword.2 c List.mem_cons_self
  have hrun : ∀ d ∈ word, isWord d = true := fun d hd => hword.2 d (List.mem_cons_of_mem c hd)
  refine ⟨c, word ++ cs, rfl, hc, ?_⟩
  rw [firstToken_word hc, takeWhile_append hrun hcs, dropWhile_append hrun hcs]

theorem text_repaired_label (kind : LabelKind) (head content more : List Char) :
    (Token.label kind head content).repaired.text ++ more =
      head ++ kind.opening :: ((quoteLabel? kind content).getD content ++ kind.closing :: more) := by
  simp [Token.repaired, Token.text]

theorem takeLabel?_behind_name {name cs : List Char} (hname : IsName name) (hcs : Stops isWord cs)
    (hsettled : IsSettled (name ++ cs)) (h : takeLabel? .subgraph cs = none) :
    ∃ after, requoted (name ++ cs) = name ++ after ∧ Stops isWord after ∧
      takeLabel? .subgraph after = none := by
  obtain ⟨c, tail, heq, hc, hfirst⟩ := firstToken_name hname hcs
  obtain ⟨t, rest, hread, htoken⟩ : ∃ t rest, Reads name cs t rest ∧
      wordToken name cs = (t, rest) := ⟨_, _, reads_wordToken name cs, rfl⟩
  rw [heq] at hsettled ⊢
  have hrest := hsettled.rest
  rw [hfirst, htoken] at hrest
  rw [requoted_cons, hfirst, htoken]
  -- what starts with a character that no word holds and that opens no title
  have hnone {d : Char} (hd : isWord d = false) (hne : d ≠ LabelKind.subgraph.opening)
      (after : List Char) :
      Stops isWord (d :: after) ∧ takeLabel? .subgraph (d :: after) = none := by
    refine ⟨stops_cons.2 hd, takeLabel?_of_head ?_⟩
    rw [List.head?_cons]
    exact fun heq => hne (Option.some.inj heq)
  cases hread with
  | @title head label _ hword htitle =>
    obtain ⟨gap, inner, after, -, rfl, hgap, -⟩ := takeTitle?_eq_some_iff.1 htitle
    obtain ⟨b, gap, rfl⟩ := List.exists_cons_of_ne_nil hgap.1
    have hb : isBlank b = true := hgap.2 b List.mem_cons_self
    have hne : b ≠ LabelKind.subgraph.opening := by
      rintro rfl
      revert hb
      decide
    refine ⟨b :: (gap ++ (inner ++ LabelKind.subgraph.opening ::
      ((quoteLabel? .subgraph label).getD label ++ LabelKind.subgraph.closing ::
        requoted rest))), ?_, hnone (isWord_of_isBlank hb) hne _⟩
    dsimp only
    rw [text_repaired_label]
    simp
  | square htitle hsquare => exact absurd h (takeLabel?_subgraph_ne_none hsquare)
  | @styled label _ htitle hlabel hstyle =>
    refine ⟨'(' :: (label ++ ')' :: requoted rest), ?_, hnone (by decide) (by decide) _⟩
    simp [Token.repaired, Token.text]
  | @round label _ htitle hlabel hstyle =>
    exact ⟨_, text_repaired_label _ _ _ _, hnone (by decide) (by decide) _⟩
  | plain htitle hsquare hlabel =>
    exact ⟨_, rfl, stops_requoted hcs, takeLabel?_requoted hrest h⟩

/-! ### Titles -/

theorem firstToken_blank {c : Char} (h : isBlank c = true) (cs : List Char) :
    firstToken c cs = (.plain [c], cs) := by
  have hne {d : Char} (hd : isBlank d = false) : c ≠ d := by
    rintro rfl
    rw [h] at hd
    cases hd
  exact firstToken_other (fun hc => hne (by decide) hc.1) (hne (by decide)) (hne (by decide))
    (isWord_of_isBlank h)

theorem requoted_blanks {gap : List Char} (hgap : IsBlanks gap) (cs : List Char) :
    requoted (gap ++ cs) = gap ++ requoted cs := by
  induction gap with
  | nil => rfl
  | cons c gap ih =>
    have hc : isBlank c = true := hgap c List.mem_cons_self
    rw [List.cons_append, requoted_plain (firstToken_blank hc _),
      ih fun d hd => hgap d (List.mem_cons_of_mem c hd), List.cons_append]

theorem IsSettled.of_blanks {gap cs : List Char} (hgap : IsBlanks gap)
    (h : IsSettled (gap ++ cs)) : IsSettled cs := by
  induction gap with
  | nil => exact h
  | cons c gap ih =>
    have hc : isBlank c = true := hgap c List.mem_cons_self
    have hrest := IsSettled.rest h
    rw [firstToken_blank hc] at hrest
    exact ih (fun d hd => hgap d (List.mem_cons_of_mem c hd)) hrest

theorem takeTitle?_requoted {cs : List Char} (hsettled : IsSettled cs)
    (h : takeTitle? cs = none) : takeTitle? (requoted cs) = none := by
  obtain ⟨gap, cs, rfl, hgap, hblank⟩ : ∃ gap after, cs = gap ++ after ∧ IsBlanks gap ∧
      Stops isBlank after :=
    ⟨_, _, List.takeWhile_append_dropWhile.symm, fun c hc => of_mem_takeWhile hc,
      stops_dropWhile _⟩
  obtain ⟨name, cs, rfl, hname, hword⟩ : ∃ name after, cs = name ++ after ∧
      (∀ c ∈ name, isWord c = true) ∧ Stops isWord after :=
    ⟨_, _, List.takeWhile_append_dropWhile.symm, fun c hc => of_mem_takeWhile hc,
      stops_dropWhile _⟩
  have hsettled' := hsettled.of_blanks hgap
  rw [requoted_blanks hgap]
  by_cases hnone : gap = [] ∨ name = []
  · apply takeTitle?_of_stops hgap (stops_requoted hblank)
    rcases hnone with hnil | rfl
    · exact Or.inl hnil
    · exact Or.inr (stops_requoted hword)
  · rw [not_or] at hnone
    rw [takeTitle?_append ⟨hnone.1, hgap⟩ ⟨hnone.2, hname⟩ hword, Option.map_eq_none_iff] at h
    obtain ⟨after, heq, hstops, hlabel⟩ :=
      takeLabel?_behind_name ⟨hnone.2, hname⟩ hword hsettled' h
    rw [heq, takeTitle?_append ⟨hnone.1, hgap⟩ ⟨hnone.2, hname⟩ hstops, hlabel]
    rfl

end DiagramDoc.Flow
