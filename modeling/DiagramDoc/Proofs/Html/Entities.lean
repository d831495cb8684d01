import DiagramDoc.Proofs.Html.Tags
import DiagramDoc.Proofs.Text.Spans

/-! # Entities

Escaped text is read back by putting the characters in the place of their entities, from left to
right and each place once: what comes out of an entity is not looked at again, so a text that spells
an entity itself comes back as it was. Since it has no delimiters, a value ends at the next double
quote and a text at the next angle bracket.
-/

namespace DiagramDoc.Html

/-- The entities of escaped text. -/
def entities : List (List Char) :=
  ["&amp;", "&lt;", "&gt;", "&quot;", "&#x27;"].map String.toList

/-- The text with characters in the place of its entities. An ampersand that opens none of them
stands for itself. -/
def decode : List Char → List Char
  | '&' :: 'a' :: 'm' :: 'p' :: ';' :: cs => '&' :: decode cs
  | '&' :: 'l' :: 't' :: ';' :: cs => '<' :: decode cs
  | '&' :: 'g' :: 't' :: ';' :: cs => '>' :: decode cs
  | '&' :: 'q' :: 'u' :: 'o' :: 't' :: ';' :: cs => '"' :: decode cs
  | '&' :: '#' :: 'x' :: '2' :: '7' :: ';' :: cs => '\'' :: decode cs
  | c :: cs => c :: decode cs
  | [] => []

/-- What an entity stands for is not the start of another one. -/
example : decode "&amp;lt; &amp &#x27;".toList = "&lt; &amp '".toList := by decide

variable {c : Char} {cs : List Char}

theorem decode_cons (hc : c ≠ '&') : decode (c :: cs) = c :: decode cs := by
  rw [decode] <;> rintro _ rfl <;> exact absurd rfl hc

/-- The characters that open or end a tag or a value. -/
def delimiters : List Char := ['<', '>', '"', '\'']

/-- A character is escaped by the entity that stands for it, or not at all. -/
theorem escapeChar_cases (c : Char) :
    escapeChar c ∈ entities ∧ (∀ cs, decode (escapeChar c ++ cs) = c :: decode cs) ∨
      c ≠ '&' ∧ c ∉ delimiters ∧ escapeChar c = [c] := by
  rw [escapeChar]
  split_ifs with hand hless hgreater hdouble hsingle
  · exact .inl ⟨by decide, fun cs => by rw [hand]; rfl⟩
  · exact .inl ⟨by decide, fun cs => by rw [hless]; rfl⟩
  · exact .inl ⟨by decide, fun cs => by rw [hgreater]; rfl⟩
  · exact .inl ⟨by decide, fun cs => by rw [hdouble]; rfl⟩
  · exact .inl ⟨by decide, fun cs => by rw [hsingle]; rfl⟩
  · have hdelimiter : c ∉ delimiters := by simp [delimiters, hless, hgreater, hdouble, hsingle]
    exact .inr ⟨hand, hdelimiter, rfl⟩

theorem decode_escapeChar (c : Char) (cs : List Char) :
    decode (escapeChar c ++ cs) = c :: decode cs := by
  obtain ⟨-, hdecode⟩ | ⟨hc, -, hsame⟩ := escapeChar_cases c
  · exact hdecode cs
  · rw [hsame, List.singleton_append, decode_cons hc]

theorem decode_flatMap_escapeChar (cs : List Char) : decode (cs.flatMap escapeChar) = cs := by
  induction cs with
  | nil => rfl
  | cons c cs ih => rw [List.flatMap_cons, decode_escapeChar, ih]

/-- **Escaping loses nothing.** -/
theorem decode_escape (s : String) : decode (escape s).toList = s.toList := by
  rw [escape, String.toList_ofList, decode_flatMap_escapeChar]

/-! ### What escaped text is made of -/

/-- No character of the text is a delimiter, and each ampersand opens an entity. -/
structure IsEscaped (cs : List Char) : Prop where
  notMem : ∀ c ∈ delimiters, c ∉ cs
  entity : ∀ after, '&' :: after <:+ cs → ∃ e ∈ entities, e <+: '&' :: after

theorem isEscaped_nil : IsEscaped [] :=
  ⟨fun _ _ => List.not_mem_nil, fun _ h => absurd (List.suffix_nil.1 h) (List.cons_ne_nil _ _)⟩

theorem suffix_of_suffix_append {after front : List Char} (hfront : c ∉ front)
    (h : c :: after <:+ front ++ cs) : c :: after <:+ cs := by
  induction front with
  | nil => exact h
  | cons d front ih =>
    rw [List.mem_cons, not_or] at hfront
    obtain hall | hrest := List.suffix_cons_iff.1 h
    · exact absurd (List.cons.inj hall).1 hfront.1
    · exact ih hfront.2 hrest

theorem IsEscaped.entity_append {e : List Char} (he : e ∈ entities) (h : IsEscaped cs) :
    IsEscaped (e ++ cs) := by
  obtain ⟨name, rfl, hand⟩ : ∃ name, e = '&' :: name ∧ '&' ∉ name := by
    have hall : ∀ e ∈ entities, ∃ name, e = '&' :: name ∧ '&' ∉ name := by
      simp [entities]
    exact hall e he
  refine ⟨fun c hc => ?_, fun after hafter => ?_⟩
  · have hname : ∀ e ∈ entities, ∀ c ∈ delimiters, c ∉ e := by simp [entities, delimiters]
    rw [List.mem_append, not_or]
    exact ⟨hname _ he c hc, h.notMem c hc⟩
  · obtain hall | hrest := List.suffix_cons_iff.1 hafter
    · exact ⟨_, he, hall ▸ List.prefix_append _ _⟩
    · exact h.entity after (suffix_of_suffix_append hand hrest)

theorem IsEscaped.cons (hand : c ≠ '&') (hc : c ∉ delimiters) (h : IsEscaped cs) :
    IsEscaped (c :: cs) := by
  refine ⟨fun d hd => ?_, fun after hafter => ?_⟩
  · rw [List.mem_cons, not_or]
    exact ⟨fun heq => hc (heq ▸ hd), h.notMem d hd⟩
  · have hnot : '&' ∉ [c] := by simpa using hand.symm
    exact h.entity after (suffix_of_suffix_append hnot hafter)

theorem isEscaped_flatMap_escapeChar (cs : List Char) : IsEscaped (cs.flatMap escapeChar) := by
  induction cs with
  | nil => exact isEscaped_nil
  | cons c cs ih =>
    rw [List.flatMap_cons]
    obtain ⟨hentity, -⟩ | ⟨hand, hdelimiter, hsame⟩ := escapeChar_cases c
    · exact ih.entity_append hentity
    · rw [hsame]
      exact ih.cons hand hdelimiter

/-- **Escaped text has entities and no delimiters.** -/
theorem isEscaped_escape (s : String) : IsEscaped (escape s).toList := by
  rw [escape, String.toList_ofList]
  exact isEscaped_flatMap_escapeChar s.toList

/-! ### Readers -/

/-- What is behind `expected`, if the text starts with it. -/
def skip? (expected : String) (cs : List Char) : Option (List Char) :=
  cs.dropPrefix? expected.toList

/-- The decoded text in front of the first `mark`, and what is behind the mark. -/
def readUntil? (mark : Char) (cs : List Char) : Option (String × List Char) :=
  match cs.dropWhile (· ≠ mark) with
  | _ :: rest => some (String.ofList (decode (cs.takeWhile (· ≠ mark))), rest)
  | [] => none

/-- The value of the attribute that stands at the start of the text, and what is behind it. -/
def readAttr? (name : String) (cs : List Char) : Option (String × List Char) :=
  (skip? (" " ++ name ++ "=\"") cs).bind (readUntil? '"')

variable {mark : Char}

@[simp]
theorem skip?_append (expected : String) (cs : List Char) :
    skip? expected (expected.toList ++ cs) = some cs :=
  List.dropPrefix?_eq_some_iff.2 ⟨_, rfl, beq_self_eq_true _⟩

@[simp]
theorem readUntil?_escape (hmark : mark ∈ delimiters) (s : String) (cs : List Char) :
    readUntil? mark ((escape s).toList ++ mark :: cs) = some (s, cs) := by
  have hescaped : ∀ c ∈ (escape s).toList, decide (c ≠ mark) = true := by
    intro c hc
    rw [decide_eq_true_eq]
    rintro rfl
    exact (isEscaped_escape s).notMem c hmark hc
  have hstops : Text.Stops (fun c => decide (c ≠ mark)) (mark :: cs) :=
    Text.stops_cons.2 (by simp)
  rw [readUntil?, Text.dropWhile_append hescaped hstops, Text.takeWhile_append hescaped hstops,
    decode_escape, String.ofList_toList]

/-- Escaped text ends at the next delimiter. -/
theorem escape_append_inj (hmark : mark ∈ delimiters) {s t : String} {xs ys : List Char}
    (hxs : xs.head? = some mark) (hys : ys.head? = some mark)
    (h : (escape s).toList ++ xs = (escape t).toList ++ ys) : s = t ∧ xs = ys := by
  obtain ⟨xs, rfl⟩ := List.head?_eq_some_iff.1 hxs
  obtain ⟨ys, rfl⟩ := List.head?_eq_some_iff.1 hys
  have hread := congrArg (readUntil? mark) h
  rw [readUntil?_escape hmark, readUntil?_escape hmark, Option.some.injEq, Prod.mk.injEq] at hread
  exact ⟨hread.1, congrArg (mark :: ·) hread.2⟩

@[simp]
theorem readAttr?_attr (name value : String) (cs : List Char) :
    readAttr? name ((attr name value).toList ++ cs) = some (value, cs) := by
  have hattr : (attr name value).toList ++ cs =
      (" " ++ name ++ "=\"").toList ++ ((escape value).toList ++ '"' :: cs) := by
    simp [attr]
  rw [readAttr?, hattr, skip?_append, Option.bind_some, readUntil?_escape (by decide)]

end DiagramDoc.Html
