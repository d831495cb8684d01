import DiagramDoc.Diagram.ReservedWords
import Mathlib.Data.List.Basic

/-! # Reserved words as a set

However a set of reserved words came about, it is told by the list of all words that were given: its
words are those that have no other spelling in front of them. So there is one spelling of each, a
word is in the set if some spelling of it was given, and it does not matter in how many calls the
words were given.
-/

namespace DiagramDoc.ReservedWords

open Text

/-! ### Spellings -/

variable {r : ReservedWords} {given : List String} {v w : String}

theorem contains_congr (r : ReservedWords) (h : asciiLower v.toList = asciiLower w.toList) :
    r.contains v = r.contains w := by
  rw [contains, contains]
  congr 1
  funext word
  rw [sameIgnoringCase, sameIgnoringCase, h]

theorem contains_add (r : ReservedWords) (word v : String) :
    (r.add word).contains v = (r.contains v || sameIgnoringCase word v) := by
  rw [add]
  cases hword : r.contains word with
  | true =>
    rw [if_pos rfl]
    cases hsame : sameIgnoringCase word v with
    | true =>
      rw [← contains_congr r (sameIgnoringCase_iff.1 hsame), hword]
      rfl
    | false => rw [Bool.or_false]
  | false => simp [contains]

theorem contains_addAll (r : ReservedWords) (extra : List String) (v : String) :
    (r.addAll extra).contains v =
      (r.contains v || extra.any fun word => sameIgnoringCase word v) := by
  rw [addAll]
  induction extra generalizing r with
  | nil => rw [List.foldl_nil, List.any_nil, Bool.or_false]
  | cons word extra ih => rw [List.foldl_cons, ih, contains_add, List.any_cons, Bool.or_assoc]

/-- The word at an index is a spelling of no word in front of it. -/
def isFirst (given : List String) (indexed : String × Nat) : Bool :=
  !(given.take indexed.2).any fun earlier => sameIgnoringCase earlier indexed.1

/-- The words of which no other spelling stands in front of them, in the same order. -/
def firstSpellings (given : List String) : List String :=
  (given.zipIdx.filter (isFirst given)).map Prod.fst

example : firstSpellings ["box", "End", "BOX", "end", "é", "É"] = ["box", "End", "é", "É"] := by
  decide

theorem firstSpellings_concat (given : List String) (word : String) :
    firstSpellings (given ++ [word]) = firstSpellings given ++
      if given.any fun earlier => sameIgnoringCase earlier word then [] else [word] := by
  have hfront : given.zipIdx.filter (isFirst (given ++ [word])) =
      given.zipIdx.filter (isFirst given) := by
    apply List.filter_congr
    intro p hp
    have hindex : p.2 ≤ given.length := Nat.le_of_lt (List.snd_lt_of_mem_zipIdx hp)
    rw [isFirst, isFirst, List.take_append_of_le_length hindex]
  have hlast : isFirst (given ++ [word]) (word, given.length) =
      !given.any fun earlier => sameIgnoringCase earlier word := by
    rw [isFirst, List.take_left]
  rw [firstSpellings, List.zipIdx_append, List.filter_append, List.map_append, hfront,
    ← firstSpellings, List.zipIdx_singleton, Nat.zero_add, List.filter_singleton, hlast]
  cases given.any fun earlier => sameIgnoringCase earlier word <;> rfl

/-! ### Sets and what was given -/

/-- The set is made of the words that were given, up to the case of ASCII letters. -/
structure IsSetOf (r : ReservedWords) (given : List String) : Prop where
  distinct : r.words.Pairwise fun v w => sameIgnoringCase v w = false
  contains_iff : ∀ word, r.contains word = true ↔ ∃ v ∈ given, sameIgnoringCase v word = true
  words : r.words = firstSpellings given

theorem isSetOf_empty : IsSetOf empty [] :=
  ⟨.nil, fun _ => by simp [contains, empty], rfl⟩

theorem IsSetOf.contains_eq (h : IsSetOf r given) (word : String) :
    r.contains word = given.any fun v => sameIgnoringCase v word := by
  rw [Bool.eq_iff_iff, h.contains_iff, List.any_eq_true]

theorem IsSetOf.add (h : IsSetOf r given) (word : String) :
    IsSetOf (r.add word) (given ++ [word]) := by
  refine ⟨?_, fun v => ?_, ?_⟩
  · rw [ReservedWords.add]
    split
    · exact h.distinct
    · next hnew =>
      rw [contains, List.any_eq_true, not_exists] at hnew
      refine List.pairwise_append.2 ⟨h.distinct, List.pairwise_singleton _ _, fun v hv w hw => ?_⟩
      rw [List.mem_singleton.1 hw]
      exact Bool.eq_false_iff.2 fun hsame => hnew v ⟨hv, hsame⟩
  · rw [contains_add, Bool.or_eq_true, h.contains_iff]
    simp only [List.mem_append, List.mem_singleton, or_and_right, exists_or, exists_eq_left]
  · rw [firstSpellings_concat, ← h.contains_eq, ← h.words, ReservedWords.add]
    split
    · exact (List.append_nil r.words).symm
    · rfl

theorem IsSetOf.addAll (h : IsSetOf r given) (extra : List String) :
    IsSetOf (r.addAll extra) (given ++ extra) := by
  rw [ReservedWords.addAll]
  induction extra generalizing r given with
  | nil => rwa [List.append_nil]
  | cons word extra ih =>
    rw [List.foldl_cons, List.append_cons]
    exact ih (h.add word)

/-- The set comes from the empty or the standard one by calls that add words, and with those of the
standard one `given` are the words that were given, one call after the other. -/
inductive IsBuilt : ReservedWords → List String → Prop
  | empty : IsBuilt .empty []
  | standard : IsBuilt .standard keywords
  | addAll {r : ReservedWords} {given : List String} (h : IsBuilt r given) (extra : List String) :
      IsBuilt (r.addAll extra) (given ++ extra)

theorem IsBuilt.isSetOf (h : IsBuilt r given) : IsSetOf r given := by
  induction h with
  | empty => exact isSetOf_empty
  | standard => exact isSetOf_empty.addAll keywords
  | addAll _ extra ih => exact ih.addAll extra

/-! ### Adding more words -/

theorem addAll_addAll (r : ReservedWords) (xs ys : List String) :
    (r.addAll xs).addAll ys = r.addAll (xs ++ ys) :=
  (List.foldl_append ..).symm

theorem addAll_of_contains {extra : List String} (h : ∀ word ∈ extra, r.contains word = true) :
    r.addAll extra = r := by
  rw [addAll]
  induction extra with
  | nil => rfl
  | cons word extra ih =>
    rw [List.forall_mem_cons] at h
    rw [List.foldl_cons, add, if_pos h.1, ih h.2]

/-- **Reserved words are a set up to the case of ASCII letters**, and its words are the first
spellings that were given, in the order in which they were given. Adding two lists is adding one
behind the other, and adding words of the set changes nothing. -/
theorem set_ignoring_case :
    (∀ (r : ReservedWords) (given : List String), IsBuilt r given → IsSetOf r given) ∧
      (∀ (r : ReservedWords) (xs ys : List String),
        (r.addAll xs).addAll ys = r.addAll (xs ++ ys)) ∧
      ∀ (r : ReservedWords) (extra : List String), (∀ word ∈ extra, r.contains word = true) →
        r.addAll extra = r :=
  ⟨fun _ _ h => h.isSetOf, addAll_addAll, fun _ _ => addAll_of_contains⟩

theorem set_ignoring_case_box :
    IsBuilt ((standard.addAll ["Box", "END", "box"]).addAll ["loop", "BOX", "K"])
        (keywords ++ ["Box", "END", "box"] ++ ["loop", "BOX", "K"]) ∧
      ((standard.addAll ["Box", "END", "box"]).addAll ["loop", "BOX", "K"]).words =
        keywords ++ ["Box", "K"] ∧
      (standard.addAll ["Box"]).addAll ["bOX", "Note"] = standard.addAll ["Box"] := by
  have hbuilt := (IsBuilt.standard.addAll ["Box", "END", "box"]).addAll ["loop", "BOX", "K"]
  obtain ⟨hset, -, hkept⟩ := set_ignoring_case
  refine ⟨hbuilt, ?_, hkept _ _ (by decide)⟩
  rw [(hset _ _ hbuilt).words]
  decide

end DiagramDoc.ReservedWords
