import DiagramDoc.Proofs.Text.Lines
import DiagramDoc.Proofs.Text.Spans

/-! # Words

At white space the words of a text fall into two parts, and everything about words follows from it:
white space at the ends of a text belongs to none of its words, and a text without white space is
one word, which ends at the white space behind it.
-/

namespace DiagramDoc.Text

theorem words_nil : words [] = [] := rfl

theorem words_append_cons {c : Char} (hc : isSpace c = true) (xs ys : List Char) :
    words (xs ++ c :: ys) = words xs ++ words ys := by
  rw [words, splitAt_append_cons hc, List.filter_append, words, words]

variable {space : List Char}

theorem words_append_of_forall (hspace : ∀ c ∈ space, isSpace c = true) (cs : List Char) :
    words (cs ++ space) = words cs := by
  induction space using List.reverseRecOn with
  | nil => rw [List.append_nil]
  | append_singleton space c ih =>
    rw [List.forall_mem_append, List.forall_mem_singleton] at hspace
    rw [← List.append_assoc, words_append_cons hspace.2, words_nil, List.append_nil, ih hspace.1]

theorem words_of_append (hspace : ∀ c ∈ space, isSpace c = true) (cs : List Char) :
    words (space ++ cs) = words cs := by
  induction space with
  | nil => rfl
  | cons c space ih =>
    rw [List.forall_mem_cons] at hspace
    calc words (c :: space ++ cs) = words [] ++ words (space ++ cs) :=
          words_append_cons hspace.1 [] (space ++ cs)
      _ = words cs := by rw [words_nil, List.nil_append, ih hspace.2]

theorem words_trim (cs : List Char) : words (trim cs) = words cs := by
  obtain ⟨before, behind, hcs, hbefore, hbehind⟩ := exists_eq_trim cs
  calc words (trim cs) = words (before ++ (trim cs ++ behind)) := by
        rw [words_of_append hbefore, words_append_of_forall hbehind]
    _ = words cs := by rw [← hcs]

theorem words_of_forall (hspace : ∀ c ∈ space, isSpace c = true) : words space = [] :=
  words_append_of_forall hspace []

theorem head?_words_cons {c : Char} (hc : isSpace c = false) (cs : List Char) :
    ∃ rest, (words (c :: cs)).head? = some (c :: rest) := by
  obtain ⟨piece, pieces, hcs⟩ := List.exists_cons_of_ne_nil (splitAt_ne_nil isSpace cs)
  refine ⟨piece, ?_⟩
  rw [words, splitAt, if_neg (by simp [hc]), hcs]
  rfl

/-- A text that is one word: it is not empty and has no white space. -/
structure IsOneWord (cs : List Char) : Prop where
  ne_nil : cs ≠ []
  solid : ∀ c ∈ cs, isSpace c = false

instance (cs : List Char) : Decidable (IsOneWord cs) :=
  haveI : Decidable (∀ c ∈ cs, isSpace c = false) := List.decidableBAll _ cs
  decidable_of_iff (cs ≠ [] ∧ ∀ c ∈ cs, isSpace c = false)
    ⟨fun h => ⟨h.1, h.2⟩, fun h => ⟨h.ne_nil, h.solid⟩⟩

variable {word rest : List Char}

theorem IsOneWord.words_eq (h : IsOneWord word) : words word = [word] := by
  rw [words, splitAt_of_forall h.solid]
  exact List.filter_cons_of_pos (decide_eq_true h.ne_nil)

theorem IsOneWord.words_append (h : IsOneWord word)
    (hrest : ∀ c ∈ rest.head?, isSpace c = true) : words (word ++ rest) = word :: words rest := by
  cases rest with
  | nil => rw [List.append_nil, h.words_eq, words_nil]
  | cons c rest =>
    have hc : isSpace c = true := hrest c rfl
    have hbehind : words (c :: rest) = words rest :=
      words_of_append (List.forall_mem_singleton.2 hc) rest
    rw [words_append_cons hc, h.words_eq, hbehind, List.singleton_append]

end DiagramDoc.Text
