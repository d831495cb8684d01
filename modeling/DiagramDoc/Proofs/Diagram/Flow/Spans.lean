import DiagramDoc.Proofs.Diagram.Flow.Idempotence

/-! # Labels by their places

The labels of a flowchart are found first, each by its place in the source, and replaced afterwards:
what is between two replaced labels is copied. In a source without quotes and bars no mark can lose
its partner, so the scan of the result finds the same labels again. Each of them has moved by the
growth of the labels before it, and none has to be quoted.
-/

namespace DiagramDoc.Text

/-! ### Places in a text -/

/-- The number of bytes that a text takes. -/
def byteLength : List Char → Nat
  | [] => 0
  | c :: cs => c.utf8Size + byteLength cs

def dropBytes : Nat → List Char → List Char
  | _, [] => []
  | n, c :: cs => if n = 0 then c :: cs else dropBytes (n - c.utf8Size) cs

def takeBytes : Nat → List Char → List Char
  | _, [] => []
  | n, c :: cs => if n = 0 then [] else c :: takeBytes (n - c.utf8Size) cs

/-- The text between two places, given by the bytes before them. -/
def slice (cs : List Char) (start stop : Nat) : List Char :=
  takeBytes (stop - start) (dropBytes start cs)

@[simp]
theorem byteLength_append (xs ys : List Char) :
    byteLength (xs ++ ys) = byteLength xs + byteLength ys := by
  induction xs with
  | nil => rw [List.nil_append, byteLength, Nat.zero_add]
  | cons c xs ih => rw [List.cons_append, byteLength, byteLength, ih, Nat.add_assoc]

theorem dropBytes_append (xs ys : List Char) : dropBytes (byteLength xs) (xs ++ ys) = ys := by
  induction xs with
  | nil => cases ys <;> rfl
  | cons c xs ih =>
    have hpos := c.utf8Size_pos
    rw [byteLength, List.cons_append, dropBytes, if_neg (by omega), Nat.add_sub_cancel_left, ih]

theorem takeBytes_append (xs ys : List Char) : takeBytes (byteLength xs) (xs ++ ys) = xs := by
  induction xs with
  | nil => cases ys <;> rfl
  | cons c xs ih =>
    have hpos := c.utf8Size_pos
    rw [byteLength, List.cons_append, takeBytes, if_neg (by omega), Nat.add_sub_cancel_left, ih]

theorem slice_append (xs ys zs : List Char) :
    slice (xs ++ ys ++ zs) (byteLength xs) (byteLength (xs ++ ys)) = ys := by
  rw [slice, List.append_assoc, dropBytes_append, byteLength_append, Nat.add_sub_cancel_left,
    takeBytes_append]

end DiagramDoc.Text

namespace DiagramDoc.Flow

open Text Unicode

/-- The place of a label in a source, between its brackets. -/
structure LabelSpan where
  kind : LabelKind
  start : Nat
  stop : Nat
  deriving DecidableEq, Repr

/-- The label behind `pos` bytes, its head and its opening bracket. -/
def LabelSpan.behind (pos : Nat) (kind : LabelKind) (head content : List Char) : LabelSpan where
  kind := kind
  start := pos + byteLength (head ++ [kind.opening])
  stop := pos + byteLength (head ++ [kind.opening] ++ content)

def LabelSpan.label (source : List Char) (span : LabelSpan) : List Char :=
  slice source span.start span.stop

/-- What stands at the place after the repair. -/
def LabelSpan.replaced (source : List Char) (span : LabelSpan) : List Char :=
  (quoteLabel? span.kind (span.label source)).getD (span.label source)

def LabelSpan.growth (source : List Char) (span : LabelSpan) : ℤ :=
  byteLength (span.replaced source) - byteLength (span.label source)

/-- The place of a token's label when the token starts behind `pos` bytes. -/
def Token.span? (pos : Nat) : Token → Option LabelSpan
  | plain _ => none
  | label kind head content => some (.behind pos kind head content)

def spansFrom : Nat → List Token → List LabelSpan
  | _, [] => []
  | pos, t :: ts => (t.span? pos).toList ++ spansFrom (pos + byteLength t.text) ts

/-- The labels of a source, in order. -/
def labelSpans (source : List Char) : List LabelSpan := spansFrom 0 (tokens source)

example : labelSpans "subgraph S[My (Group)]\n  A(My/Node)".toList =
    [⟨.subgraph, 11, 21⟩, ⟨.round, 27, 34⟩] := by decide +kernel

/-- Writes the source from `last` on, with each label that has to be quoted replaced. -/
def spliceFrom (source : List Char) : Nat → List LabelSpan → List Char
  | last, [] => dropBytes last source
  | last, span :: spans =>
    match quoteLabel? span.kind (span.label source) with
    | some replaced =>
      slice source last span.start ++ replaced ++ spliceFrom source span.stop spans
    | none => spliceFrom source last spans

def splice (source : List Char) : List Char := spliceFrom source 0 (labelSpans source)

/-- A label of `out` that is a label of `source` again, moved by `shift` bytes and replaced if it
had to be quoted. -/
structure LabelSpan.IsAgain (source out : List Char) (shift : ℤ) (old new : LabelSpan) : Prop where
  kind_eq : new.kind = old.kind
  start_eq : (new.start : ℤ) = old.start + shift
  stop_eq : (new.stop : ℤ) = old.stop + shift + old.growth source
  label_eq : new.label out = old.replaced source
  isKept : quoteLabel? new.kind (new.label out) = none

/-- The labels of `out` are those of `source` again, one by one, each moved by `shift` bytes and by
the growth of the labels before it. -/
inductive Moved (source out : List Char) : ℤ → List LabelSpan → List LabelSpan → Prop
  | nil {shift : ℤ} : Moved source out shift [] []
  | cons {shift : ℤ} {old new : LabelSpan} {olds news : List LabelSpan}
      (hhead : old.IsAgain source out shift new)
      (htail : Moved source out (shift + old.growth source) olds news) :
      Moved source out shift (old :: olds) (new :: news)

/-! ### Labels where their tokens are -/

variable {source out front : List Char}

theorem LabelSpan.label_behind {kind : LabelKind} {head content rest : List Char}
    (h : source = front ++ (Token.label kind head content).text ++ rest) :
    (behind (byteLength front) kind head content).label source = content := by
  have hsource : source = front ++ (head ++ [kind.opening]) ++ content ++
      ([kind.closing] ++ rest) := by simp [h, Token.text]
  have hslice := slice_append (front ++ (head ++ [kind.opening])) content ([kind.closing] ++ rest)
  rw [← hsource, byteLength_append front, List.append_assoc front,
    byteLength_append front] at hslice
  exact hslice

/-! ### The copy -/

/-- What is copied late has been passed over: `kept` stands between the place of the last
replacement and the tokens to come. -/
theorem spliceFrom_spansFrom {kept : List Char} {ts : List Token}
    (h : source = front ++ kept ++ ts.flatMap Token.text) :
    spliceFrom source (byteLength front) (spansFrom (byteLength (front ++ kept)) ts) =
      kept ++ ts.flatMap fun t => t.repaired.text := by
  induction ts generalizing front kept with
  | nil =>
    rw [List.flatMap_nil, List.append_nil] at h
    rw [spansFrom, spliceFrom, h, dropBytes_append, List.flatMap_nil, List.append_nil]
  | cons t ts ih =>
    rw [List.flatMap_cons, ← List.append_assoc] at h
    have hkept : source = front ++ (kept ++ t.text) ++ ts.flatMap Token.text := by
      rw [h, List.append_assoc front]
    have hpass : spliceFrom source (byteLength front)
        (spansFrom (byteLength (front ++ kept) + byteLength t.text) ts) =
          kept ++ t.text ++ ts.flatMap fun t => t.repaired.text := by
      rw [← byteLength_append, List.append_assoc front]
      exact ih hkept
    rw [List.flatMap_cons]
    cases t with
    | plain text =>
      rw [spansFrom, Token.span?, Option.toList_none, List.nil_append, hpass, List.append_assoc]
      rfl
    | label kind head content =>
      have hlabel := LabelSpan.label_behind h
      rw [spansFrom, Token.span?, Option.toList_some, List.singleton_append, spliceFrom, hlabel,
        LabelSpan.behind]
      cases hquote : quoteLabel? kind content with
      | none =>
        dsimp only
        rw [hpass, Token.repaired, hquote, Option.getD_none, List.append_assoc]
      | some replaced =>
        have hbefore : slice source (byteLength front)
            (byteLength (front ++ kept) + byteLength (head ++ [kind.opening])) =
              kept ++ (head ++ [kind.opening]) := by
          have hsource : source = front ++ (kept ++ (head ++ [kind.opening])) ++
              (content ++ [kind.closing] ++ ts.flatMap Token.text) := by simp [h, Token.text]
          have hslice := slice_append front (kept ++ (head ++ [kind.opening]))
            (content ++ [kind.closing] ++ ts.flatMap Token.text)
          rwa [← hsource, ← List.append_assoc front, byteLength_append (front ++ kept)] at hslice
        have hbehind : spliceFrom source
            (byteLength (front ++ kept) + byteLength (head ++ [kind.opening] ++ content))
            (spansFrom (byteLength (front ++ kept) +
              byteLength (Token.label kind head content).text) ts) =
              [kind.closing] ++ ts.flatMap fun t => t.repaired.text := by
          have hsource : source = front ++ kept ++ (head ++ [kind.opening] ++ content) ++
              [kind.closing] ++ ts.flatMap Token.text := by simp [h, Token.text]
          have hrest := ih hsource
          rw [byteLength_append _ [kind.closing], byteLength_append (front ++ kept)] at hrest
          rw [Token.text, byteLength_append _ [kind.closing], ← Nat.add_assoc]
          exact hrest
        dsimp only
        rw [hbefore, hbehind, Token.repaired, hquote, Option.getD_some, Token.text]
        simp only [List.append_assoc]

theorem splice_eq_requoted (source : List Char) : splice source = requoted source := by
  have hsource : source = [] ++ [] ++ (tokens source).flatMap Token.text :=
    (flatMap_text_tokens source).symm
  exact spliceFrom_spansFrom hsource

/-! ### The labels found again -/

theorem LabelSpan.isAgain_behind {front' rest rest' : List Char} {shift : ℤ} {kind : LabelKind}
    {head content : List Char}
    (hsource : source = front ++ (Token.label kind head content).text ++ rest)
    (hout : out = front' ++ (Token.label kind head content).repaired.text ++ rest')
    (hshift : (byteLength front' : ℤ) = byteLength front + shift) :
    (behind (byteLength front) kind head content).IsAgain source out shift
      (behind (byteLength front') kind head ((quoteLabel? kind content).getD content)) := by
  have hold := label_behind hsource
  have hnew := label_behind hout
  have hreplaced : (behind (byteLength front) kind head content).replaced source =
      (quoteLabel? kind content).getD content := by rw [replaced, hold]; rfl
  refine ⟨rfl, ?_, ?_, hnew.trans hreplaced.symm, ?_⟩
  · rw [behind, behind, Nat.cast_add, Nat.cast_add, hshift]
    omega
  · rw [growth, hold, hreplaced]
    simp only [behind, byteLength_append, Nat.cast_add, hshift]
    omega
  · rw [hnew]
    exact quoteLabel?_getD kind content

theorem moved_spansFrom {front' : List Char} {shift : ℤ} {ts : List Token}
    (hsource : source = front ++ ts.flatMap Token.text)
    (hout : out = front' ++ ts.flatMap fun t => t.repaired.text)
    (hshift : (byteLength front' : ℤ) = byteLength front + shift) :
    Moved source out shift (spansFrom (byteLength front) ts)
      (spansFrom (byteLength front') (ts.map Token.repaired)) := by
  induction ts generalizing front front' shift with
  | nil => exact .nil
  | cons t ts ih =>
    rw [List.flatMap_cons, ← List.append_assoc] at hsource hout
    rw [List.map_cons, spansFrom, spansFrom, ← byteLength_append, ← byteLength_append]
    cases t with
    | plain text =>
      refine ih hsource hout ?_
      rw [Token.repaired, byteLength_append, byteLength_append, Nat.cast_add, Nat.cast_add, hshift]
      omega
    | label kind head content =>
      refine .cons (LabelSpan.isAgain_behind hsource hout hshift) (ih hsource hout ?_)
      have hold := LabelSpan.label_behind hsource
      rw [LabelSpan.growth, LabelSpan.replaced, hold]
      simp only [Token.repaired, Token.text, LabelSpan.behind, byteLength_append, Nat.cast_add,
        hshift]
      omega

/-! ### Marks without a partner -/

theorem Token.isLoose_eq_false {t : Token} (hquote : '"' ∉ t.text) (hbar : '|' ∉ t.text) :
    t.isLoose = false := by
  have hopens {cs : List Char} (h : '"' ∉ cs) : opensQuote cs = false := by
    rw [opensQuote, List.count_eq_zero_of_not_mem h]
    exact Bool.and_false _
  cases t with
  | plain text =>
    have hne : text ≠ ['|'] := by
      rintro rfl
      exact hbar (List.mem_singleton_self _)
    have htext : '"' ∉ text := hquote
    have hrest : '"' ∉ (text.dropWhile isWord).drop 1 := fun hmem =>
      htext ((List.dropWhile_suffix _).subset (List.drop_subset _ _ hmem))
    rw [isLoose, hopens htext, hopens hrest, beq_eq_false_iff_ne.2 hne, Bool.and_false]
    rfl
  | label kind head content =>
    have hcontent : '"' ∉ content := by
      intro hmem
      apply hquote
      simp [Token.text, hmem]
    rw [isLoose, hopens hcontent, Bool.and_false]

theorem isSettled_of_not_mem (hquote : '"' ∉ source) (hbar : '|' ∉ source) :
    IsSettled source := by
  have hmem {t : Token} (ht : t ∈ tokens source) {c : Char} (hc : c ∈ t.text) : c ∈ source := by
    rw [← flatMap_text_tokens source]
    exact List.mem_flatMap.2 ⟨t, ht, hc⟩
  apply List.pairwise_of_forall_mem_list
  intro t ht u _ hloose
  rw [Token.isLoose_eq_false (fun hc => hquote (hmem ht hc)) fun hc => hbar (hmem ht hc)] at hloose
  cases hloose

/-- **The scan of the result finds every label again**, at its old place moved by the growth of the
labels before it, and quotes none of them. -/
theorem labelSpans_splice (hquote : '"' ∉ source) (hbar : '|' ∉ source) :
    (hasForeignHeader source = false → repair source = splice source) ∧
      Moved source (splice source) 0 (labelSpans source) (labelSpans (splice source)) := by
  constructor
  · intro hforeign
    rw [repair, hforeign, splice_eq_requoted]
    rfl
  · have hsource : source = [] ++ (tokens source).flatMap Token.text :=
      (flatMap_text_tokens source).symm
    have hout : splice source = [] ++ (tokens source).flatMap fun t => t.repaired.text :=
      splice_eq_requoted source
    have htokens : tokens (splice source) = (tokens source).map Token.repaired := by
      rw [splice_eq_requoted]
      exact tokens_requoted (isSettled_of_not_mem hquote hbar)
    have hmoved := moved_spansFrom hsource hout (Int.add_zero _).symm
    rw [← htokens] at hmoved
    exact hmoved

/-- A flowchart with a title, a label on two lines, a label inside other brackets and two brackets
that are never closed. -/
def nestedLabels : List Char :=
  "graph TD\n subgraph s[Die (α)]\n  A[x/y\n   z] --> B[[c(d:e)]\n end\n C[open (".toList

theorem labelSpans_splice_nested :
    (labelSpans nestedLabels = [⟨.subgraph, 21, 29⟩, ⟨.square, 35, 43⟩, ⟨.round, 54, 57⟩] ∧
      labelSpans (splice nestedLabels) =
        [⟨.subgraph, 21, 31⟩, ⟨.square, 37, 47⟩, ⟨.round, 58, 63⟩]) ∧
    '"' ∉ nestedLabels ∧ '|' ∉ nestedLabels ∧ repair nestedLabels = splice nestedLabels ∧
      Moved nestedLabels (splice nestedLabels) 0 (labelSpans nestedLabels)
        (labelSpans (splice nestedLabels)) := by
  have hquote : '"' ∉ nestedLabels := by decide +kernel
  have hbar : '|' ∉ nestedLabels := by decide +kernel
  have hagain := labelSpans_splice hquote hbar
  exact ⟨by decide +kernel, hquote, hbar, hagain.1 (by decide +kernel), hagain.2⟩

end DiagramDoc.Flow
