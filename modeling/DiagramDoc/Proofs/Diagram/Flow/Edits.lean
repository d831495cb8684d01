import DiagramDoc.Proofs.Diagram.Flow.Spans

/-! # What a repair may change

The labels of a flowchart lie one behind the other in its source, each behind a name and a bracket.
Comments, texts between bars, quoted strings and styling words are tokens of their own, so no label
reaches into them. A repair puts other texts in the places of labels and copies everything between
them, and the only text that it writes is the label in one pair of quotes.
-/

namespace DiagramDoc.Flow

open Text Unicode

/-! ### Labels and what becomes of them -/

/-- `out` is `cs` with every line feed replaced by `<br>`, together with the carriage return in
front of it and all white space behind it. -/
inductive BreaksInto : List Char → List Char → Prop
  | last {piece : List Char} (h : '\n' ∉ piece) : BreaksInto piece piece
  | cons {piece ret gap rest out : List Char} (hpiece : '\n' ∉ piece)
      (hret : ret = ['\r'] ∨ ret = [] ∧ piece.getLast? ≠ some '\r')
      (hgap : ∀ c ∈ gap, isSpace c = true) (hrest : Stops isSpace rest)
      (h : BreaksInto rest out) :
      BreaksInto (piece ++ ret ++ ['\n'] ++ gap ++ rest) (piece ++ "<br>".toList ++ out)

/-- A label that has to be put in quotes: it is neither in quotes already nor a shape, and it is a
title or holds a character that its kind must not hold. -/
structure MustQuote (kind : LabelKind) (label : List Char) : Prop where
  bare : ∀ inner, trim label ≠ '"' :: inner ++ ['"']
  isText : isShape kind label = false
  rejected : ∀ triggers ∈ kind.triggers?, ∃ c ∈ label, c ∈ triggers

/-- A label and what becomes of it: the trimmed label on one line and in one pair of quotes if it
has to be quoted, and else the label. -/
inductive Requotes (kind : LabelKind) : List Char → List Char → Prop
  | kept {label : List Char} (h : ¬ MustQuote kind label) : Requotes kind label label
  | quoted {label body inner : List Char} (h : MustQuote kind label)
      (hbody : BreaksInto (trim label) body)
      (hinner : inner = body.flatMap fun c => if c = '"' then "#quot;".toList else [c])
      (hquote : '"' ∉ inner) (hfeed : '\n' ∉ inner) :
      Requotes kind label ('"' :: inner ++ ['"'])

theorem BreaksInto.cons_char {c : Char} {cs out : List Char} (h : BreaksInto cs out)
    (hfeed : c ≠ '\n') (hreturn : ¬ (c = '\r' ∧ cs.head? = some '\n')) :
    BreaksInto (c :: cs) (c :: out) := by
  cases h with
  | last hpiece => exact .last (by simp [hpiece, hfeed.symm])
  | @cons piece ret gap rest out hpiece hret hgap hrest h =>
    have hpiece' : '\n' ∉ c :: piece := by simp [hpiece, hfeed.symm]
    refine .cons hpiece' ?_ hgap hrest h
    refine hret.imp_right fun hnone => ⟨hnone.1, ?_⟩
    cases piece with
    | nil =>
      -- nothing stands between the character and the line feed
      rintro heq
      apply hreturn
      rw [hnone.1]
      simpa using heq
    | cons d piece => simpa using hnone.2

theorem breaksInto_breakMarkup (cs : List Char) : BreaksInto cs (breakMarkup cs) := by
  have hbreak (ret : List Char) {cs : List Char} (hret : ret = ['\r'] ∨ ret = [])
      (h : BreaksInto (cs.dropWhile isSpace) (breakMarkup (cs.dropWhile isSpace))) :
      BreaksInto (ret ++ '\n' :: cs)
        (lineBreakMarkup ++ breakMarkup (cs.dropWhile isSpace)) := by
    have hcut : ret ++ '\n' :: cs =
        [] ++ ret ++ ['\n'] ++ cs.takeWhile isSpace ++ cs.dropWhile isSpace := by
      rw [List.append_assoc, List.takeWhile_append_dropWhile]
      simp
    rw [hcut]
    exact .cons List.not_mem_nil (hret.imp_right fun hnil => ⟨hnil, by simp⟩)
      (fun c hc => of_mem_takeWhile hc) (stops_dropWhile cs) h
  fun_induction breakMarkup cs with
  | case1 => exact .last List.not_mem_nil
  | case2 cs ih => exact hbreak [] (Or.inr rfl) ih
  | case3 c cs hfeed hreturn ih =>
    obtain ⟨rfl, hhead⟩ := hreturn
    obtain ⟨tail, rfl⟩ := List.head?_eq_some_iff.1 hhead
    rw [List.dropWhile_cons_of_pos (by decide)] at ih ⊢
    exact hbreak ['\r'] (Or.inl rfl) ih
  | case4 c cs hfeed hreturn ih => exact ih.cons_char hfeed hreturn

theorem BreaksInto.feed_notMem {cs out : List Char} (h : BreaksInto cs out) : '\n' ∉ out := by
  induction h with
  | last h => exact h
  | cons hpiece hret hgap hrest h ih =>
    rw [List.mem_append, List.mem_append, not_or, not_or]
    exact ⟨⟨hpiece, by decide⟩, ih⟩

theorem isQuotedLabel_iff {label : List Char} :
    isQuotedLabel label = true ↔ ∃ inner, trim label = '"' :: inner ++ ['"'] :=
  isEnclosed_iff

theorem needsQuotes_iff {kind : LabelKind} {label : List Char} :
    needsQuotes kind label = true ↔ ∀ triggers ∈ kind.triggers?, ∃ c ∈ label, c ∈ triggers := by
  rw [needsQuotes]
  cases kind.triggers? <;> simp

theorem mustQuote_iff {kind : LabelKind} {label : List Char} :
    MustQuote kind label ↔ quoteLabel? kind label = some (quoted label) := by
  have hchoice : MustQuote kind label ↔
      ¬ (isQuotedLabel label || isShape kind label || !needsQuotes kind label) = true := by
    rw [Bool.or_eq_true, Bool.or_eq_true, not_or, not_or, isQuotedLabel_iff, Bool.not_eq_true',
      Bool.not_eq_false, needsQuotes_iff, Bool.not_eq_true, not_exists]
    exact ⟨fun h => ⟨⟨h.bare, h.isText⟩, h.rejected⟩, fun h => ⟨h.1.1, h.1.2, h.2⟩⟩
  rw [hchoice, quoteLabel?]
  split
  · next hkeep => simp [hkeep]
  · next hquote => simp [hquote]

theorem quoteLabel?_eq_none_iff {kind : LabelKind} {label : List Char} :
    quoteLabel? kind label = none ↔ ¬ MustQuote kind label := by
  rw [mustQuote_iff]
  constructor
  · intro h
    rw [h]
    exact (Option.some_ne_none _).symm
  · intro h
    rw [Option.eq_none_iff_forall_ne_some]
    rintro replaced hreplaced
    rw [eq_quoted_of_quoteLabel? hreplaced] at hreplaced
    exact h hreplaced

theorem feed_notMem_quoted (label : List Char) : '\n' ∉ quoted label := by
  have hbody := (breaksInto_breakMarkup (trim label)).feed_notMem
  rw [quoted, List.mem_append, List.mem_append, not_or, not_or, List.mem_flatMap]
  refine ⟨⟨by decide, ?_⟩, by decide⟩
  rintro ⟨c, hc, hmem⟩
  split at hmem
  · revert hmem
    decide
  · exact hbody (List.mem_singleton.1 hmem ▸ hc)

theorem requotes_quoteLabel? (kind : LabelKind) (label : List Char) :
    Requotes kind label ((quoteLabel? kind label).getD label) := by
  by_cases hquote : MustQuote kind label
  · have hfeed := feed_notMem_quoted label
    rw [quoted, List.mem_append, List.mem_append, not_or, not_or] at hfeed
    rw [mustQuote_iff.1 hquote, Option.getD_some]
    exact .quoted hquote (breaksInto_breakMarkup (trim label)) rfl
      (quote_notMem_entities (breakMarkup (trim label))) hfeed.1.2
  · rw [quoteLabel?_eq_none_iff.2 hquote, Option.getD_none]
    exact .kept hquote

/-! ### Labels in their source -/

/-- The place lies in the source, and no character is cut at its ends. -/
def LabelSpan.IsIn (source : List Char) (span : LabelSpan) : Prop :=
  ∃ before label after, source = before ++ label ++ after ∧ span.start = byteLength before ∧
    span.stop = byteLength (before ++ label)

/-- The place has nothing in common with the bytes from `start` to `stop`. -/
def LabelSpan.IsOutside (start stop : Nat) (span : LabelSpan) : Prop :=
  span.stop ≤ start ∨ stop ≤ span.start

/-- `out` is `source`, both taken from the place `pos` on, with another text in the place of each
label, to which `R` relates the label. -/
inductive Relabels (R : LabelKind → List Char → List Char → Prop) :
    Nat → List LabelSpan → List Char → List Char → Prop
  | copied {pos : Nat} {kept : List Char} : Relabels R pos [] kept kept
  | label {pos : Nat} {span : LabelSpan} {spans : List LabelSpan}
      {kept label label' rest rest' : List Char}
      (hstart : span.start = pos + byteLength kept)
      (hstop : span.stop = span.start + byteLength label) (hlabel : R span.kind label label')
      (hrest : Relabels R span.stop spans rest rest') :
      Relabels R pos (span :: spans) (kept ++ label ++ rest) (kept ++ label' ++ rest')

/-- What stands in front of the bracket of a label: the name of a node, and for a title the word
`subgraph` and a name. No styling word has a label in round brackets. -/
inductive IsHead : LabelKind → List Char → Prop
  | subgraph {gap name : List Char} (hgap : IsGap gap) (hname : IsName name) :
      IsHead .subgraph ("subgraph".toList ++ (gap ++ name))
  | square {word : List Char} (h : IsName word) : IsHead .square word
  | round {word : List Char} (h : IsName word) (hstyle : word ∉ styleKeywords) :
      IsHead .round word

/-- What the scan passes over: a comment, a text between bars, a quoted string, or a styling word
with what stands behind it in round brackets. -/
inductive IsSkipped : List Char → Prop
  | comment {text : List Char} (h : '\n' ∉ text) : IsSkipped ("%%".toList ++ text)
  | edgeText {text : List Char} (h : ∀ c ∈ text, c ≠ '|' ∧ c ≠ '\n') :
      IsSkipped ('|' :: text ++ ['|'])
  | string {text : List Char} (h : ∀ c ∈ text, c ≠ '"' ∧ c ≠ '\n' ∧ c ≠ '|') :
      IsSkipped ('"' :: text ++ ['"'])
  | styling {word text : List Char} (h : word ∈ styleKeywords) :
      IsSkipped (word ++ '(' :: (text ++ [')']))

theorem Reads.isHead {word cs rest : List Char} {kind : LabelKind} {head content : List Char}
    (h : Reads word cs (.label kind head content) rest) (hword : IsName word) :
    IsHead kind head := by
  cases h with
  | title hsubgraph h =>
    obtain ⟨gap, name, after, -, rfl, hgap, hname, -⟩ := takeTitle?_eq_some_iff.1 h
    rw [hsubgraph]
    exact .subgraph hgap hname
  | square htitle h => exact .square hword
  | round htitle h hstyle =>
    refine .round hword fun hmem => ?_
    rw [List.contains_iff_mem.2 hmem] at hstyle
    cases hstyle

theorem isHead_firstToken {c : Char} {cs : List Char} {kind : LabelKind}
    {head content : List Char} (h : (firstToken c cs).1 = .label kind head content) :
    IsHead kind head := by
  by_cases hword : isWord c = true
  · have hname : IsName (c :: cs.takeWhile isWord) :=
      ⟨List.cons_ne_nil _ _, List.forall_mem_cons.2 ⟨hword, fun d hd => of_mem_takeWhile hd⟩⟩
    rw [firstToken_word hword] at h
    have hread := reads_wordToken (c :: cs.takeWhile isWord) (cs.dropWhile isWord)
    rw [h] at hread
    exact hread.isHead hname
  · rw [firstToken, if_neg hword] at h
    split at h
    · cases h
    · split at h
      · split at h <;> cases h
      · split at h
        · split at h <;> cases h
        · cases h

theorem isHead_of_mem_tokens {cs : List Char} {kind : LabelKind} {head content : List Char}
    (h : .label kind head content ∈ tokens cs) : IsHead kind head := by
  fun_induction tokens cs with
  | case1 => cases h
  | case2 c cs ih =>
    rcases List.mem_cons.1 h with hfirst | hrest
    · exact isHead_firstToken hfirst.symm
    · exact ih hrest

/-- The word at the start of a label's token, and what is behind it. -/
theorem IsHead.exists_word {kind : LabelKind} {head : List Char} (h : IsHead kind head)
    (more : List Char) :
    ∃ word tail, head ++ [kind.opening] ++ more = word ++ tail ∧ IsName word ∧
      Stops isWord tail ∧ (word ∈ styleKeywords → tail.head? ≠ some '(') := by
  cases h with
  | @subgraph gap name hgap hname =>
    refine ⟨"subgraph".toList, gap ++ (name ++ '[' :: more), by simp [LabelKind.opening],
      ⟨by decide, List.all_eq_true.1 (by decide)⟩, hgap.stops_isWord _, ?_⟩
    intro hstyle
    exact absurd hstyle (by decide)
  | square hword =>
    refine ⟨head, '[' :: more, by simp [LabelKind.opening], hword, stops_cons.2 (by decide), ?_⟩
    intro _ hround
    exact absurd (Option.some.inj hround) (by decide)
  | round hword hstyle =>
    exact ⟨head, '(' :: more, by simp [LabelKind.opening], hword, stops_cons.2 (by decide),
      fun hmem => absurd hmem hstyle⟩

theorem IsSkipped.isPlain {source : List Char} {t : Token} (h : IsSkipped t.text)
    (ht : t ∈ tokens source) : ∃ text, t = .plain text := by
  cases t with
  | plain text => exact ⟨text, rfl⟩
  | label kind head content =>
    exfalso
    obtain ⟨word, tail, htext, hword, htail, hstyle⟩ :=
      (isHead_of_mem_tokens ht).exists_word (content ++ [kind.closing])
    rw [Token.text, List.append_assoc, htext] at h
    obtain ⟨cs, hcs⟩ : ∃ cs, cs = word ++ tail := ⟨_, rfl⟩
    have hfirst {c : Char} {more : List Char} (heq : cs = c :: more) : isWord c = true := by
      obtain ⟨d, word, rfl⟩ := List.exists_cons_of_ne_nil hword.1
      rw [hcs, List.cons_append, List.cons.injEq] at heq
      exact heq.1 ▸ hword.2 d List.mem_cons_self
    rw [← hcs] at h
    generalize hsame : cs = text at h
    cases h with
    | comment => exact absurd (hfirst hsame) (by decide)
    | edgeText => exact absurd (hfirst hsame) (by decide)
    | string => exact absurd (hfirst hsame) (by decide)
    | @styling word' text hmem =>
      have hall : ∀ word ∈ styleKeywords, word.all isWord = true := by decide
      have hname : ∀ c ∈ word', isWord c = true := List.all_eq_true.1 (hall _ hmem)
      have hparen : Stops isWord ('(' :: (text ++ [')'])) := stops_cons.2 (by decide)
      rw [hcs] at hsame
      have hruns := congrArg (List.takeWhile isWord) hsame
      have htails := congrArg (List.dropWhile isWord) hsame
      rw [takeWhile_append hword.2 htail, takeWhile_append hname hparen] at hruns
      rw [dropWhile_append hword.2 htail, dropWhile_append hname hparen] at htails
      rw [hruns, htails] at hstyle
      exact hstyle hmem rfl

/-! ### The places of labels -/

theorem byteLength_singleton_pos (c : Char) : 0 < byteLength [c] := c.utf8Size_pos

theorem Token.bounds_of_span? {t : Token} {pos : Nat} {span : LabelSpan}
    (h : t.span? pos = some span) :
    pos < span.start ∧ span.start ≤ span.stop ∧ span.stop < pos + byteLength t.text := by
  cases t with
  | plain text => cases h
  | label kind head content =>
    obtain rfl := Option.some.inj h
    have hopening := byteLength_singleton_pos kind.opening
    have hclosing := byteLength_singleton_pos kind.closing
    simp only [LabelSpan.behind, Token.text, byteLength_append]
    omega

theorem bounds_of_mem_spansFrom {pos : Nat} {ts : List Token} {span : LabelSpan}
    (h : span ∈ spansFrom pos ts) :
    pos < span.start ∧ span.start ≤ span.stop ∧
      span.stop < pos + byteLength (ts.flatMap Token.text) := by
  induction ts generalizing pos with
  | nil => cases h
  | cons t ts ih =>
    rw [spansFrom, List.mem_append, Option.mem_toList] at h
    rw [List.flatMap_cons, byteLength_append]
    rcases h with hfirst | hrest
    · have hbounds := Token.bounds_of_span? hfirst
      omega
    · have hbounds := ih hrest
      omega

theorem pairwise_spansFrom (pos : Nat) (ts : List Token) :
    (spansFrom pos ts).Pairwise fun s t => s.start < t.start ∧ s.stop < t.start := by
  induction ts generalizing pos with
  | nil => exact .nil
  | cons t ts ih =>
    rw [spansFrom, List.pairwise_append]
    refine ⟨?_, ih _, ?_⟩
    · cases t.span? pos <;> simp
    · intro s hs u hu
      have hfirst := Token.bounds_of_span? (Option.mem_toList.1 hs)
      have hrest := bounds_of_mem_spansFrom hu
      omega

theorem spansFrom_append (pos : Nat) (ts us : List Token) :
    spansFrom pos (ts ++ us) =
      spansFrom pos ts ++ spansFrom (pos + byteLength (ts.flatMap Token.text)) us := by
  induction ts generalizing pos with
  | nil => simp [spansFrom, byteLength]
  | cons t ts ih =>
    rw [List.cons_append, spansFrom, spansFrom, ih, List.flatMap_cons, byteLength_append,
      Nat.add_assoc, List.append_assoc]

/-- A label belongs to a token: it lies in front of any other token or behind it. -/
theorem isOutside_or_span? {source : List Char} {ts us : List Token} {t : Token}
    (h : tokens source = ts ++ t :: us) {span : LabelSpan} (hspan : span ∈ labelSpans source) :
    span.IsOutside (byteLength (ts.flatMap Token.text))
        (byteLength (ts.flatMap Token.text) + byteLength t.text) ∨
      t.span? (byteLength (ts.flatMap Token.text)) = some span := by
  rw [labelSpans, h, spansFrom_append, Nat.zero_add, spansFrom, List.mem_append, List.mem_append,
    Option.mem_toList] at hspan
  rcases hspan with hbefore | hhere | hbehind
  · have hbounds := bounds_of_mem_spansFrom hbefore
    exact Or.inl (Or.inl (by omega))
  · exact Or.inr hhere
  · have hbounds := bounds_of_mem_spansFrom hbehind
    exact Or.inl (Or.inr (by omega))

/-! ### Copies with other labels -/

variable {R S : LabelKind → List Char → List Char → Prop} {pos : Nat} {spans : List LabelSpan}
  {source out : List Char}

theorem Relabels.mono (hRS : ∀ kind label label', R kind label label' → S kind label label')
    (h : Relabels R pos spans source out) : Relabels S pos spans source out := by
  induction h with
  | copied => exact .copied
  | label hstart hstop hlabel hrest ih => exact .label hstart hstop (hRS _ _ _ hlabel) ih

theorem Relabels.exists_cut (h : Relabels R pos spans source out) {span : LabelSpan}
    (hspan : span ∈ spans) :
    ∃ before label after, source = before ++ label ++ after ∧
      span.start = pos + byteLength before ∧ span.stop = pos + byteLength (before ++ label) := by
  induction h with
  | copied => cases hspan
  | @label pos first spans kept label label' rest rest' hstart hstop hlabel hrest ih =>
    rcases List.mem_cons.1 hspan with rfl | hspan
    · exact ⟨kept, label, rest, rfl, hstart, by rw [hstop, hstart, byteLength_append]; omega⟩
    · obtain ⟨before, label₁, after, hsource, hstart₁, hstop₁⟩ := ih hspan
      refine ⟨kept ++ label ++ before, label₁, after, by simp [hsource], ?_, ?_⟩
      · rw [hstart₁, hstop, hstart]
        simp only [byteLength_append]
        omega
      · rw [hstop₁, hstop, hstart]
        simp only [byteLength_append]
        omega

/-- What stands between the last label and the tokens to come is copied with them. -/
theorem relabels_spansFrom (pos : Nat) (kept : List Char) (ts : List Token) :
    Relabels Requotes pos (spansFrom (pos + byteLength kept) ts)
      (kept ++ ts.flatMap Token.text) (kept ++ ts.flatMap fun t => t.repaired.text) := by
  induction ts generalizing pos kept with
  | nil => exact .copied
  | cons t ts ih =>
    rw [List.flatMap_cons, List.flatMap_cons]
    cases t with
    | plain text =>
      have hrest := ih pos (kept ++ text)
      rw [byteLength_append, ← Nat.add_assoc, List.append_assoc, List.append_assoc] at hrest
      exact hrest
    | label kind head content =>
      have hrest := ih (pos + byteLength kept + byteLength (head ++ [kind.opening] ++ content))
        [kind.closing]
      have hlabel := requotes_quoteLabel? kind content
      have hstart : (LabelSpan.behind (pos + byteLength kept) kind head content).start =
          pos + byteLength (kept ++ (head ++ [kind.opening])) := by
        rw [LabelSpan.behind, byteLength_append kept, Nat.add_assoc]
      have hstop : (LabelSpan.behind (pos + byteLength kept) kind head content).stop =
          (LabelSpan.behind (pos + byteLength kept) kind head content).start +
            byteLength content := by
        rw [LabelSpan.behind, byteLength_append _ content, Nat.add_assoc _ _ (byteLength content)]
      have hall := Relabels.label hstart hstop hlabel hrest
      rw [spansFrom, Token.span?, Option.toList_some, List.singleton_append]
      simp only [Token.text, Token.repaired, byteLength_append, List.append_assoc,
        Nat.add_assoc] at hall ⊢
      exact hall

theorem relabels_requoted (source : List Char) :
    Relabels Requotes 0 (labelSpans source) source (requoted source) := by
  have hall := relabels_spansFrom 0 [] (tokens source)
  rw [List.nil_append, List.nil_append, flatMap_text_tokens] at hall
  exact hall

theorem spliceFrom_of_forall {last : Nat} (h : ∀ span ∈ spans, ¬ MustQuote span.kind
    (span.label source)) : spliceFrom source last spans = dropBytes last source := by
  induction spans generalizing last with
  | nil => rfl
  | cons span spans ih =>
    obtain ⟨hspan, hspans⟩ := List.forall_mem_cons.1 h
    rw [spliceFrom, quoteLabel?_eq_none_iff.2 hspan]
    exact ih hspans

/-! ### The frame of a repair -/

/-- What a repair leaves alone, and what it may write. -/
structure TouchesLabelsOnly (source out : List Char) : Prop where
  inside : ∀ span ∈ labelSpans source, span.IsIn source
  ascending : (labelSpans source).Pairwise fun s t => s.start < t.start ∧ s.stop < t.start
  skipped : ∀ ts t us, tokens source = ts ++ t :: us → IsSkipped t.text →
    ∀ span ∈ labelSpans source, span.IsOutside (byteLength (ts.flatMap Token.text))
      (byteLength (ts.flatMap Token.text) + byteLength t.text)
  names : ∀ ts kind head content us, tokens source = ts ++ .label kind head content :: us →
    ∀ span ∈ labelSpans source, span.IsOutside (byteLength (ts.flatMap Token.text))
      (byteLength (ts.flatMap Token.text) + byteLength head)
  foreign : hasForeignHeader source = true → out = source
  relabels : hasForeignHeader source = false →
    Relabels Requotes 0 (labelSpans source) source out
  unchanged : (∀ span ∈ labelSpans source, ¬ MustQuote span.kind (span.label source)) →
    out = source

theorem repair_touchesLabelsOnly (source : List Char) :
    TouchesLabelsOnly source (repair source) where
  inside span hspan := by
    obtain ⟨before, label, after, hsource, hstart, hstop⟩ :=
      (relabels_requoted source).exists_cut hspan
    rw [Nat.zero_add] at hstart hstop
    exact ⟨before, label, after, hsource, hstart, hstop⟩
  ascending := pairwise_spansFrom 0 (tokens source)
  skipped ts t us h hskipped span hspan := by
    have hmem : t ∈ tokens source := by simp [h]
    obtain ⟨text, rfl⟩ := hskipped.isPlain hmem
    rcases isOutside_or_span? h hspan with houtside | hhere
    · exact houtside
    · cases hhere
  names ts kind head content us h span hspan := by
    rcases isOutside_or_span? h hspan with (hbefore | hbehind) | hhere
    · exact Or.inl hbefore
    · right
      simp only [Token.text, byteLength_append] at hbehind
      omega
    · right
      obtain rfl := Option.some.inj hhere
      simp only [LabelSpan.behind, byteLength_append]
      omega
  foreign h := if_pos h
  relabels h := by
    have hrepair : repair source = requoted source := if_neg (by simp [h])
    rw [hrepair]
    exact relabels_requoted source
  unchanged h := by
    rw [repair]
    split
    · rfl
    · have hsplice : splice source = dropBytes 0 source := spliceFrom_of_forall h
      have hsame : dropBytes 0 source = source := dropBytes_append [] source
      rw [hsame] at hsplice
      exact (splice_eq_requoted source).symm.trans hsplice

/-- One label is quoted; the text between bars, the shape and the comment are copied. -/
example : repair "A[x/y] -->|B(u:v)| C[(db)] %% D[x/y]".toList =
    "A[\"x/y\"] -->|B(u:v)| C[(db)] %% D[x/y]".toList := by decide +kernel

end DiagramDoc.Flow
