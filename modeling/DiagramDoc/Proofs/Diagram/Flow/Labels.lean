import DiagramDoc.Diagram.Flow.Repair
import DiagramDoc.Proofs.Text.Spans

/-! # Labels in quotes

A quoted label holds one pair of quotes, at its ends, and the brackets of the label. White space is
all that it may lose, so it always has more characters other than white space than the label.
-/

namespace DiagramDoc.Flow

open Text

def isBracket (c : Char) : Bool := c == '[' || c == ']' || c == '(' || c == ')'

theorem isSpace_of_isBracket {c : Char} (h : isBracket c = true) : isSpace c = false := by
  simp only [isBracket, Bool.or_eq_true, beq_iff_eq] at h
  rcases h with ((rfl | rfl) | rfl) | rfl <;> decide

/-! ### Brackets -/

theorem filter_isBracket_breakMarkup (cs : List Char) :
    (breakMarkup cs).filter isBracket = cs.filter isBracket := by
  fun_induction breakMarkup cs with
  | case1 => rfl
  | case2 cs ih =>
    rw [List.filter_append, ih, filter_dropWhile_isSpace fun c => isSpace_of_isBracket]
    rfl
  | case3 c cs hfeed hreturn ih =>
    rw [List.filter_append, ih, filter_dropWhile_isSpace fun c => isSpace_of_isBracket, hreturn.1]
    rfl
  | case4 c cs hfeed hreturn ih =>
    rw [List.filter_cons, List.filter_cons, ih]

theorem filter_isBracket_quoted (label : List Char) :
    (quoted label).filter isBracket = label.filter isBracket := by
  have hentity (cs : List Char) : (cs.flatMap fun c => if c = '"' then quoteEntity else [c]).filter
      isBracket = cs.filter isBracket := by
    induction cs with
    | nil => rfl
    | cons c cs ih =>
      rw [List.flatMap_cons, List.filter_append, ih]
      by_cases hc : c = '"'
      · rw [if_pos hc, hc]
        rfl
      · rw [if_neg hc, ← List.filter_append]
        rfl
  have hquote : ['"'].filter isBracket = [] := rfl
  rw [quoted, List.filter_append, List.filter_append, hentity, filter_isBracket_breakMarkup,
    filter_trim fun c => isSpace_of_isBracket, hquote, List.nil_append, List.append_nil]

/-! ### Characters other than white space -/

def ink (cs : List Char) : Nat := cs.countP fun c => !isSpace c

theorem ink_append (xs ys : List Char) : ink (xs ++ ys) = ink xs + ink ys := List.countP_append

theorem ink_cons (c : Char) (cs : List Char) : ink (c :: cs) = ink [c] + ink cs :=
  ink_append [c] cs

theorem ink_dropWhile_isSpace (cs : List Char) : ink (cs.dropWhile isSpace) = ink cs := by
  rw [ink, ink, List.countP_eq_length_filter, List.countP_eq_length_filter,
    filter_dropWhile_isSpace fun c hc => by simpa using hc]

theorem ink_trim (cs : List Char) : ink (trim cs) = ink cs := by
  rw [ink, ink, List.countP_eq_length_filter, List.countP_eq_length_filter,
    filter_trim fun c hc => by simpa using hc]

theorem ink_le_ink_breakMarkup (cs : List Char) : ink cs ≤ ink (breakMarkup cs) := by
  fun_induction breakMarkup cs with
  | case1 => exact Nat.le_refl _
  | case2 cs ih =>
    rw [ink_dropWhile_isSpace] at ih
    rw [ink_append]
    have hfeed : ink ('\n' :: cs) = ink cs := List.countP_cons_of_neg (by decide)
    omega
  | case3 c cs hfeed hreturn ih =>
    rw [ink_dropWhile_isSpace] at ih
    rw [ink_append, hreturn.1]
    have hreturn' : ink ('\r' :: cs) = ink cs := List.countP_cons_of_neg (by decide)
    omega
  | case4 c cs hfeed hreturn ih =>
    rw [ink_cons c cs, ink_cons c (breakMarkup cs)]
    exact Nat.add_le_add_left ih _

/-- **A quoted label is not the label.** -/
theorem ink_add_two_le_ink_quoted (label : List Char) : ink label + 2 ≤ ink (quoted label) := by
  have hentity (cs : List Char) :
      ink cs ≤ ink (cs.flatMap fun c => if c = '"' then quoteEntity else [c]) := by
    induction cs with
    | nil => exact Nat.le_refl _
    | cons c cs ih =>
      rw [List.flatMap_cons, ink_append, ink_cons]
      by_cases hc : c = '"'
      · rw [if_pos hc, hc]
        have hlong : ink ['"'] ≤ ink quoteEntity := by decide
        omega
      · rw [if_neg hc]
        omega
  have hquote : ink ['"'] = 1 := by decide
  have hinner : ink label ≤ ink ((breakMarkup (trim label)).flatMap fun c =>
      if c = '"' then quoteEntity else [c]) :=
    calc ink label = ink (trim label) := (ink_trim label).symm
      _ ≤ ink (breakMarkup (trim label)) := ink_le_ink_breakMarkup _
      _ ≤ _ := hentity _
  rw [quoted, ink_append, ink_append, hquote]
  omega

/-! ### Quotes -/

theorem quote_notMem_entities (cs : List Char) :
    '"' ∉ cs.flatMap fun c => if c = '"' then quoteEntity else [c] :=
  notMem_replaced (by decide) cs

theorem exists_quoted_eq (label : List Char) :
    ∃ inner, '"' ∉ inner ∧ quoted label = '"' :: inner ++ ['"'] :=
  ⟨_, quote_notMem_entities (breakMarkup (trim label)), rfl⟩

theorem isQuotedLabel_quoted (label : List Char) : isQuotedLabel (quoted label) = true := by
  obtain ⟨inner, -, heq⟩ := exists_quoted_eq label
  have hstart : trimStart ('"' :: inner ++ ['"']) = '"' :: inner ++ ['"'] :=
    List.dropWhile_cons_of_neg (by decide)
  have htrim : trim (quoted label) = '"' :: inner ++ ['"'] := by
    rw [heq, trim, hstart]
    exact dropEndWhile_append ('"' :: inner) (by decide) (by simp)
  rw [isQuotedLabel, htrim, List.getLast?_concat]
  simp

theorem eq_quoted_of_quoteLabel? {kind : LabelKind} {label replaced : List Char}
    (h : quoteLabel? kind label = some replaced) : replaced = quoted label := by
  rw [quoteLabel?] at h
  split at h
  · cases h
  · exact (Option.some.inj h).symm

theorem quoteLabel?_quoted (kind : LabelKind) (label : List Char) :
    quoteLabel? kind (quoted label) = none := by
  rw [quoteLabel?, isQuotedLabel_quoted]
  rfl

/-- A label that is kept is kept again, and a quoted one is kept. -/
theorem quoteLabel?_getD (kind : LabelKind) (label : List Char) :
    quoteLabel? kind ((quoteLabel? kind label).getD label) = none := by
  cases hquote : quoteLabel? kind label with
  | none => exact hquote
  | some replaced =>
    rw [Option.getD_some, eq_quoted_of_quoteLabel? hquote, quoteLabel?_quoted]

theorem Token.repaired_repaired (t : Token) : t.repaired.repaired = t.repaired := by
  cases t with
  | plain text => rfl
  | label kind head content =>
    rw [Token.repaired, Token.repaired, quoteLabel?_getD, Option.getD_none]

end DiagramDoc.Flow
