import DiagramDoc.Proofs.Diagram.Flow.Rescan

/-! # Repairing a flowchart twice

The second scan of a settled source takes the same steps as the first, each on a repaired token. A
token that is not repaired again keeps its characters, and one that is gains two quotes, so the
second repair changes the source exactly if it repairs a token.
-/

namespace DiagramDoc.Flow

open Text Unicode

/-! ### One step -/

theorem Token.repaired_of_isLoose {t : Token} (h : t.isLoose = true) : t.repaired = t := by
  cases t with
  | plain text => rfl
  | label kind head content =>
    rw [Token.isLoose, Bool.and_eq_true, Option.isNone_iff_eq_none] at h
    rw [Token.repaired, h.1, Option.getD_none]

theorem opensQuote_of_isLoose_eq_false {kind : LabelKind} {head content : List Char}
    (h : (Token.label kind head content).isLoose = false)
    (hkept : quoteLabel? kind content = none) : opensQuote content = false := by
  rw [Token.isLoose, hkept] at h
  exact h

theorem opensQuote_styled {word content : List Char} (hword : IsName word)
    (h : (Token.plain (word ++ ['('] ++ content ++ [')'])).isLoose = false) :
    opensQuote content = false := by
  have hstops : Stops isWord ('(' :: (content ++ [')'])) := stops_cons.2 (by decide)
  have hhead : (word ++ '(' :: (content ++ [')'])).head?.any isWord = true := by
    obtain ⟨c, word, rfl⟩ := List.exists_cons_of_ne_nil hword.1
    exact hword.2 c List.mem_cons_self
  have hsame : opensQuote (content ++ [')']) = opensQuote content := by
    rw [opensQuote, opensQuote, List.count_append]
    cases content with
    | nil => rfl
    | cons c content => rfl
  simp only [List.append_assoc, List.cons_append, List.nil_append] at h
  rw [Token.isLoose, Bool.or_eq_false_iff, hhead, dropWhile_append hword.2 hstops] at h
  rw [← hsame]
  exact h.2

theorem Reads.exists_repaired {word cs rest : List Char} {t : Token} (h : Reads word cs t rest)
    (hword : IsName word) (hcs : Stops isWord cs) (hrest : IsSettled rest)
    (hloose : t.isLoose = false) :
    ∃ more, t.repaired.text ++ requoted rest = word ++ more ∧ Stops isWord more ∧
      Reads word more t.repaired (requoted rest) := by
  -- a bracket right behind the word leaves no gap for a title
  have htitle (kind : LabelKind) (more : List Char) : takeTitle? (kind.opening :: more) = none := by
    have hblanks : IsBlanks [] := by
      intro c hc
      cases hc
    have hopening : isBlank kind.opening = false := by cases kind <;> decide
    exact takeTitle?_of_stops hblanks (stops_cons.2 hopening) (Or.inl rfl)
  have hstops (kind : LabelKind) (more : List Char) : Stops isWord (kind.opening :: more) := by
    apply stops_cons.2
    cases kind <;> decide
  cases h with
  | @title head label _ hsubgraph h =>
    obtain ⟨gap, name, after, -, rfl, hgap, hname, -, hlabel⟩ := takeTitle?_eq_some_iff.1 h
    have hagain := takeTitle?_eq_some_iff.2 ⟨gap, name, _, rfl, rfl, hgap, hname,
      hstops .subgraph _, takeLabel?_repaired hlabel (opensQuote_of_isLoose_eq_false hloose)
        (requoted rest)⟩
    refine ⟨_, ?_, hgap.stops_isWord _, .title hsubgraph hagain⟩
    rw [text_repaired_label, List.append_assoc, List.append_assoc]
  | @square label _ hnone hlabel =>
    have hagain := takeLabel?_repaired hlabel (opensQuote_of_isLoose_eq_false hloose)
      (requoted rest)
    exact ⟨_, text_repaired_label _ _ _ _, hstops .square _,
      .square (fun _ => htitle .square _) hagain⟩
  | @styled label _ hnone hlabel hstyle =>
    have hagain := takeLabel?_kept hlabel (opensQuote_styled hword hloose) (requoted rest)
    refine ⟨LabelKind.round.opening :: (label ++ LabelKind.round.closing :: requoted rest), ?_,
      hstops .round _, .styled (fun _ => htitle .round _) hagain hstyle⟩
    simp [Token.repaired, Token.text, LabelKind.opening, LabelKind.closing]
  | @round label _ hnone hlabel hstyle =>
    have hagain := takeLabel?_repaired hlabel (opensQuote_of_isLoose_eq_false hloose)
      (requoted rest)
    exact ⟨_, text_repaired_label _ _ _ _, hstops .round _,
      .round (fun _ => htitle .round _) hagain hstyle⟩
  | plain hnone hsquare hround =>
    exact ⟨_, rfl, stops_requoted hcs,
      .plain (fun hsubgraph => takeTitle?_requoted hrest (hnone hsubgraph))
        (takeLabel?_requoted hrest hsquare) (takeLabel?_requoted hrest hround)⟩

theorem takeEnclosed?_repaired {close : Char} {stop : Char → Bool} {cs text rest : List Char}
    (hclose : stop close = true) (h : takeEnclosed? close stop cs = some (text, rest)) :
    takeEnclosed? close stop (text ++ requoted rest) = some (text, requoted rest) := by
  obtain ⟨inner, htext, -, hinner⟩ := (takeEnclosed?_eq_some_iff hclose).1 h
  exact (takeEnclosed?_eq_some_iff hclose).2 ⟨inner, htext, rfl, hinner⟩

theorem firstToken_comment_requoted {cs : List Char} (h : cs.head? = some '%') :
    firstToken '%' (cs.takeWhile (· ≠ '\n') ++ requoted (cs.dropWhile (· ≠ '\n'))) =
      (.plain ('%' :: cs.takeWhile (· ≠ '\n')), requoted (cs.dropWhile (· ≠ '\n'))) := by
  obtain ⟨tail, rfl⟩ := List.head?_eq_some_iff.1 h
  have hrun : ∀ d ∈ ('%' :: tail).takeWhile (· ≠ '\n'), decide (d ≠ '\n') = true :=
    fun d hd => of_mem_takeWhile hd
  have hstops := stops_requoted (stops_dropWhile (p := (· ≠ '\n')) ('%' :: tail))
  rw [firstToken_comment, takeWhile_append hrun hstops, dropWhile_append hrun hstops]
  rw [List.takeWhile_cons_of_pos (by decide)]
  rfl

theorem exists_firstToken_word {c : Char} {cs : List Char} (hword : isWord c = true)
    (hrest : IsSettled (firstToken c cs).2) (hloose : (firstToken c cs).1.isLoose = false) :
    ∃ more, (firstToken c cs).1.repaired.text ++ requoted (firstToken c cs).2 = c :: more ∧
      firstToken c more = ((firstToken c cs).1.repaired, requoted (firstToken c cs).2) := by
  have hrun : ∀ d ∈ cs.takeWhile isWord, isWord d = true := fun d hd => of_mem_takeWhile hd
  have hname : IsName (c :: cs.takeWhile isWord) :=
    ⟨List.cons_ne_nil _ _, List.forall_mem_cons.2 ⟨hword, hrun⟩⟩
  rw [firstToken_word hword] at hrest hloose ⊢
  obtain ⟨more, heq, hstops, hread⟩ := (reads_wordToken _ _).exists_repaired hname
    (stops_dropWhile cs) hrest hloose
  refine ⟨cs.takeWhile isWord ++ more, heq, ?_⟩
  rw [firstToken_word hword, takeWhile_append hrun hstops, dropWhile_append hrun hstops]
  exact hread.wordToken_eq

/-- The second scan takes the same step as the first. -/
theorem exists_firstToken_requoted {c : Char} {cs : List Char} (h : IsSettled (c :: cs)) :
    ∃ more, requoted (c :: cs) = c :: more ∧
      firstToken c more = ((firstToken c cs).1.repaired, requoted (firstToken c cs).2) := by
  by_cases hloose : (firstToken c cs).1.isLoose = true
  · -- nothing changes here or behind
    have hkept := h.requoted_of_isLoose hloose
    have hfirst := Token.repaired_of_isLoose hloose
    refine ⟨cs, ?_, ?_⟩
    · rw [requoted_cons, hkept, hfirst, firstToken_text]
    · rw [hkept, hfirst]
  rw [Bool.not_eq_true] at hloose
  rw [requoted_cons]
  by_cases hcomment : c = '%' ∧ cs.head? = some '%'
  · obtain ⟨rfl, hhead⟩ := hcomment
    rw [firstToken_comment hhead]
    exact ⟨_, rfl, firstToken_comment_requoted hhead⟩
  by_cases hbar : c = '|'
  · subst hbar
    have hfirst := firstToken_bar cs
    split at hfirst
    · next text rest henclosed =>
      rw [hfirst]
      refine ⟨text ++ requoted rest, rfl, ?_⟩
      rw [firstToken_bar, takeEnclosed?_repaired (by decide) henclosed]
      rfl
    · rw [hfirst] at hloose
      cases hloose
  by_cases hquote : c = '"'
  · subst hquote
    have hfirst := firstToken_quote cs
    split at hfirst
    · next text rest henclosed =>
      rw [hfirst]
      refine ⟨text ++ requoted rest, rfl, ?_⟩
      rw [firstToken_quote, takeEnclosed?_repaired (by decide) henclosed]
      rfl
    · rw [hfirst] at hloose
      cases hloose
  by_cases hword : isWord c = true
  · exact exists_firstToken_word hword h.rest hloose
  · rw [Bool.not_eq_true] at hword
    rw [firstToken_other hcomment hbar hquote hword]
    refine ⟨requoted cs, rfl, ?_⟩
    rw [← head?_requoted] at hcomment
    exact firstToken_other hcomment hbar hquote hword

/-! ### The run -/

theorem tokens_requoted {cs : List Char} (h : IsSettled cs) :
    tokens (requoted cs) = (tokens cs).map Token.repaired := by
  fun_induction tokens cs with
  | case1 => rw [requoted_nil, tokens, List.map_nil]
  | case2 c cs ih =>
    obtain ⟨more, heq, hfirst⟩ := exists_firstToken_requoted h
    rw [heq, tokens_cons, hfirst, List.map_cons, ih h.rest]

theorem requoted_requoted {cs : List Char} (h : IsSettled cs) :
    requoted (requoted cs) = requoted cs := by
  apply requoted_of_forall
  rw [tokens_requoted h, List.forall_mem_map]
  intro t _
  exact t.repaired_repaired

/-! ### Exactness -/

theorem Token.repaired_eq_or_ink (t : Token) :
    t.repaired = t ∨ ink t.text < ink t.repaired.text := by
  cases t with
  | plain text => exact Or.inl rfl
  | label kind head content =>
    cases hquote : quoteLabel? kind content with
    | none =>
      left
      rw [Token.repaired, hquote]
      rfl
    | some replaced =>
      right
      have hlong := ink_add_two_le_ink_quoted content
      rw [Token.repaired, hquote, eq_quoted_of_quoteLabel? hquote, Option.getD_some]
      simp only [Token.text, ink_append]
      omega

theorem requoted_eq_self_iff {cs : List Char} :
    requoted cs = cs ↔ ∀ t ∈ tokens cs, t.repaired = t := by
  refine ⟨?_, requoted_of_forall⟩
  intro heq
  have hink (ts : List Token) : ink (ts.flatMap Token.text) ≤
      ink (ts.flatMap fun t => t.repaired.text) ∧
      (ink (ts.flatMap fun t => t.repaired.text) ≤ ink (ts.flatMap Token.text) →
        ∀ t ∈ ts, t.repaired = t) := by
    induction ts with
    | nil => exact ⟨Nat.le_refl _, fun _ t ht => absurd ht List.not_mem_nil⟩
    | cons t ts ih =>
      rw [List.flatMap_cons, List.flatMap_cons, ink_append, ink_append, List.forall_mem_cons]
      rcases t.repaired_eq_or_ink with hsame | hlong
      · rw [hsame]
        exact ⟨Nat.add_le_add_left ih.1 _, fun hle => ⟨rfl, ih.2 (by omega)⟩⟩
      · exact ⟨by omega, fun hle => absurd hle (by omega)⟩
  apply (hink (tokens cs)).2
  rw [flatMap_text_tokens, ← requoted, heq]

/-! ### Repair -/

theorem repair_repair_of_isSettled {source : List Char} (h : IsSettled source) :
    repair (repair source) = repair source := by
  by_cases hforeign : hasForeignHeader source = true
  · have hkept : repair source = source := if_pos hforeign
    rw [hkept, hkept]
  · have honce : repair source = requoted source := if_neg hforeign
    rw [honce, repair]
    split
    · rfl
    · exact requoted_requoted h

/-- **A second repair changes nothing exactly if it finds no label to put in quotes.** It finds none
if nothing behind a mark without a partner was repaired. -/
theorem repair_repair_iff (source : List Char) :
    (repair (repair source) = repair source ↔
      hasForeignHeader (repair source) = true ∨ ∀ t ∈ tokens (repair source), t.repaired = t) ∧
    (IsSettled source → repair (repair source) = repair source) := by
  refine ⟨?_, repair_repair_of_isSettled⟩
  by_cases hforeign : hasForeignHeader (repair source) = true
  · have hkept : repair (repair source) = repair source := if_pos hforeign
    exact iff_of_true hkept (Or.inl hforeign)
  · have hagain : repair (repair source) = requoted (repair source) := if_neg hforeign
    rw [hagain, requoted_eq_self_iff]
    exact (or_iff_right hforeign).symm

/-- The first quote has no partner until the first repair writes one. -/
theorem repair_repair_ne_stray_quote :
    repair (repair "\" A[x/ b(u:v) ]".toList) ≠ repair "\" A[x/ b(u:v) ]".toList := by
  decide +kernel

/-- Paired marks and a loose one behind the last label leave a source settled. -/
example : IsSettled "A[x/y] -->|a \" b| B(\"u\" : v) \"".toList := by decide +kernel

end DiagramDoc.Flow
