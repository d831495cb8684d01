import DiagramDoc.Document.Writer
import DiagramDoc.Proofs.Document.Anchors
import DiagramDoc.Proofs.Html.Entities
import DiagramDoc.Proofs.Text.Lines

/-! # Slugs

A slug is a row of words with hyphens between them. What separates the words of a text and what is
escaped in markup is neither a letter or number nor the lower case of one. So the words of a slug
are the pieces between its hyphens, and no character of it needs escaping, in the slug itself or in
an anchor with a number. A separator cuts a text into two that have their words one after the other,
and the same holds of their slugs.
-/

namespace DiagramDoc

open Html Text Unicode

/-! ### Special characters -/

/-- Stretches of code points that hold the separators of words and the escaped characters, and no
letter or number. -/
def specialRanges : List (Nat × Nat) := [
  (1, 0x2F), (0x3A, 0x40), (0x5B, 0x60), (0x7B, 0xA9), (0x1680, 0x1680), (0x2000, 0x206F),
  (0x3000, 0x3004)]

def IsOrdinary (n : Nat) : Prop := ∀ r ∈ specialRanges, n < r.1 ∨ r.2 < n

instance : DecidablePred IsOrdinary := fun _ =>
  inferInstanceAs (Decidable (∀ r ∈ specialRanges, _))

/-- A character of a class that the escaped characters are not in stays as it is. -/
theorem escapeChar_of_class {p : Char → Bool} (hp : ['&', '<', '>', '"', '\''].any p = false)
    {c : Char} (hc : p c = true) : escapeChar c = [c] := by
  have hne {d : Char} (hd : d ∈ ['&', '<', '>', '"', '\'']) : c ≠ d := by
    rintro rfl
    exact List.any_eq_false.1 hp c hd hc
  rw [escapeChar, if_neg (hne (by decide)), if_neg (hne (by decide)), if_neg (hne (by decide)),
    if_neg (hne (by decide)), if_neg (hne (by decide))]

theorem escapeChar_of_isDigit {c : Char} (h : c.isDigit = true) : escapeChar c = [c] :=
  escapeChar_of_class (by decide) h

theorem IsOrdinary.escapeChar_eq {c : Char} (h : IsOrdinary c.toNat) : escapeChar c = [c] :=
  escapeChar_of_class (p := fun d => decide (IsOrdinary d.toNat)) (by decide) (decide_eq_true h)

theorem IsOrdinary.isSlugSeparator_eq_false {c : Char} (h : IsOrdinary c.toNat) :
    isSlugSeparator c = false := by
  have hspace : isSpace c = false := by
    rw [IsOrdinary, specialRanges] at h
    simp only [List.forall_mem_cons] at h
    simp only [isSpace, Bool.or_eq_false_iff, Bool.and_eq_false_iff, decide_eq_false_iff_not,
      beq_eq_false_iff_ne]
    omega
  have hhyphen : c ≠ '-' := by
    rintro rfl
    exact absurd h (by decide)
  have hscore : c ≠ '_' := by
    rintro rfl
    exact absurd h (by decide)
  simp [isSlugSeparator, hspace, hhyphen, hscore]

/-! ### Lower case -/

theorem isOrdinary_ofNat {n : Nat} (h : IsOrdinary n) : IsOrdinary (Char.ofNat n).toNat := by
  by_cases hvalid : n.isValidChar
  · have hnat : (Char.ofNat n).toNat = n := by
      rw [Char.ofNat, dif_pos hvalid]
      exact UInt32.toNat_ofNatLT
    rwa [hnat]
  · have hnul : Char.ofNat n = Char.ofNat 0 := dif_neg hvalid
    rw [hnul]
    decide

theorem isOrdinary_of_isAlphanumeric {c : Char} (h : isAlphanumeric c = true) :
    IsOrdinary c.toNat := by
  have hranges : ∀ r ∈ alphanumericRanges, ∀ s ∈ specialRanges, r.2 < s.1 ∨ s.2 < r.1 := by
    decide +kernel
  obtain ⟨r, hr, hfirst, hlast⟩ := exists_range_of_inRanges h
  intro s hs
  have hapart := hranges r hr s hs
  omega

theorem isOrdinary_shiftBy {n : Nat} (h : IsOrdinary n) :
    IsOrdinary (CaseRun.shiftBy lowercaseRuns n) := by
  have hruns : ∀ r ∈ lowercaseRuns, 0 ≤ r.first + r.shift ∧ ∀ s ∈ specialRanges,
      r.last + r.shift < s.1 ∨ s.2 < r.first + r.shift := by decide +kernel
  rw [CaseRun.shiftBy]
  split
  · next r hr =>
    have hcovers := List.find?_some (p := fun run : CaseRun => run.covers n) hr
    rw [CaseRun.covers, Bool.and_eq_true, Bool.and_eq_true, decide_eq_true_eq,
      decide_eq_true_eq] at hcovers
    obtain ⟨hnonneg, hapart⟩ := hruns r (List.mem_of_find?_eq_some hr)
    intro s hs
    have hside := hapart s hs
    omega
  · exact h

theorem isOrdinary_lowercase {c d : Char} (hc : isAlphanumeric c = true) (hd : d ∈ lowercase c) :
    IsOrdinary d.toNat := by
  have hascii : ∀ n < 0x80, isAlphanumeric (Char.ofNat n) = true →
      IsOrdinary (Char.ofNat n).toLower.toNat := by decide +kernel
  rw [lowercase] at hd
  split at hd
  · rcases List.mem_pair.1 hd with rfl | rfl <;> decide
  · split at hd
    · next hlow =>
      have hletter := hascii c.toNat hlow
      rw [Char.ofNat_toNat] at hletter
      rw [List.mem_singleton.1 hd]
      exact hletter hc
    · rw [List.mem_singleton.1 hd]
      exact isOrdinary_ofNat (isOrdinary_shiftBy (isOrdinary_of_isAlphanumeric hc))

/-! ### Words of a slug -/

theorem toList_slug (text : String) : (slug text).toList = join ['-'] (slugWords text.toList) :=
  String.toList_ofList

theorem of_mem_slugWords {cs word : List Char} (h : word ∈ slugWords cs) :
    word ≠ [] ∧ ∀ c ∈ word, IsOrdinary c.toNat := by
  rw [slugWords, List.mem_filter, decide_eq_true_eq] at h
  refine ⟨h.2, fun d hd => ?_⟩
  obtain ⟨piece, -, rfl⟩ := List.mem_map.1 h.1
  obtain ⟨c, hc, hlower⟩ := List.mem_flatMap.1 hd
  exact isOrdinary_lowercase (List.mem_filter.1 hc).2 hlower

/-- The words of a slug are the pieces between its hyphens. -/
theorem splitAt_slug {text : String} (h : slugWords text.toList ≠ []) :
    splitAt (· == '-') (slug text).toList = slugWords text.toList := by
  rw [toList_slug]
  refine splitAt_join h fun word hword hhyphen => ?_
  exact absurd ((of_mem_slugWords hword).2 '-' hhyphen) (by decide)

theorem slug_eq_empty_iff {text : String} : slug text = "" ↔ slugWords text.toList = [] := by
  rw [← String.toList_inj, toList_slug]
  constructor
  · intro hempty
    by_contra hne
    have hsplit := splitAt_slug hne
    rw [toList_slug, hempty] at hsplit
    have hword : [] ∈ slugWords text.toList := hsplit ▸ List.mem_cons_self
    exact (of_mem_slugWords hword).1 rfl
  · intro hnil
    rw [hnil]
    rfl

theorem slugWords_append_cons {c : Char} (hc : isSlugSeparator c = true) (xs ys : List Char) :
    slugWords (xs ++ c :: ys) = slugWords xs ++ slugWords ys := by
  rw [slugWords, splitAt_append_cons hc, List.map_append, List.filter_append, slugWords, slugWords]

/-- A text without separators is one word or none. -/
theorem toList_slug_of_forall {text : String}
    (h : ∀ c ∈ text.toList, isSlugSeparator c = false) :
    (slug text).toList = (text.toList.filter isAlphanumeric).flatMap lowercase := by
  rw [toList_slug, slugWords, splitAt_of_forall h, List.map_singleton, ← slugWord]
  by_cases hword : slugWord text.toList = []
  · rw [List.filter_cons_of_neg (by simpa using hword), hword]
    rfl
  · rw [List.filter_cons_of_pos (by simpa using hword)]
    rfl

/-- Two slugs with a hyphen between them; an empty one leaves the other as it is. -/
def hyphenated (s t : String) : String :=
  if s = "" then t else if t = "" then s else s ++ "-" ++ t

theorem slug_append_separator {c : Char} (hc : isSlugSeparator c = true) (a b : String) :
    slug (a ++ String.ofList [c] ++ b) = hyphenated (slug a) (slug b) := by
  have hwords : slugWords (a ++ String.ofList [c] ++ b).toList =
      slugWords a.toList ++ slugWords b.toList := by
    rw [String.toList_append, String.toList_append, String.toList_ofList, List.append_assoc]
    exact slugWords_append_cons hc a.toList b.toList
  rw [hyphenated]
  split_ifs with ha hb
  · rw [slug, hwords, slug_eq_empty_iff.1 ha, List.nil_append, slug]
  · rw [slug, hwords, slug_eq_empty_iff.1 hb, List.append_nil, slug]
  · rw [slug_eq_empty_iff] at ha hb
    rw [← String.toList_inj, toList_slug, hwords, join_append ha hb, String.toList_append,
      String.toList_append, toList_slug, toList_slug]
    rfl

/-- Words with single hyphens between them, and no separator or escaped character in the words. -/
structure IsClean (slug : String) : Prop where
  first : slug.toList.head? ≠ some '-'
  last : slug.toList.getLast? ≠ some '-'
  single : ¬ ['-', '-'] <:+: slug.toList
  plain : ∀ c ∈ slug.toList, c ≠ '_' ∧ isSpace c = false ∧ c ∉ ['<', '>', '&', '"', '\'']

theorem forall_mem_slug {P : Char → Prop} (hhyphen : P '-')
    (hletter : ∀ c : Char, IsOrdinary c.toNat → P c) (text : String) :
    ∀ c ∈ (slug text).toList, P c := by
  rw [toList_slug]
  apply forall_mem_join (List.forall_mem_singleton.2 hhyphen)
  exact fun word hword c hc => hletter c ((of_mem_slugWords hword).2 c hc)

theorem isClean_slug (text : String) : IsClean (slug text) := by
  have hplain : ∀ c ∈ (slug text).toList,
      c ≠ '_' ∧ isSpace c = false ∧ c ∉ ['<', '>', '&', '"', '\''] := by
    apply forall_mem_slug
    · decide
    · intro c hc
      have hseparator := hc.isSlugSeparator_eq_false
      simp only [isSlugSeparator, Bool.or_eq_false_iff, beq_eq_false_iff_ne] at hseparator
      refine ⟨hseparator.2, hseparator.1.1, fun hmem => ?_⟩
      have hspecial : ['<', '>', '&', '"', '\''].all (fun d => !decide (IsOrdinary d.toNat)) := by
        decide
      simpa [hc] using List.all_eq_true.1 hspecial c hmem
  by_cases hwords : slugWords text.toList = []
  · rw [slug_eq_empty_iff.2 hwords] at hplain ⊢
    exact ⟨by decide, by decide, by decide, hplain⟩
  · have hpieces : [] ∉ splitAt (· == '-') (slug text).toList := by
      rw [splitAt_slug hwords]
      exact fun hmem => (of_mem_slugWords hmem).1 rfl
    obtain ⟨hfirst, hlast, hsingle⟩ := separators_within hpieces
    exact ⟨hfirst, hlast, hsingle, hplain⟩

/-! ### Slugs and anchors -/

/-- A text that escaping leaves as it is. -/
def IsPlain (s : String) : Prop := ∀ c ∈ s.toList, escapeChar c = [c]

theorem IsPlain.escape_eq {s : String} (h : IsPlain s) : escape s = s := by
  have hflat : s.toList.flatMap escapeChar = s.toList := by
    rw [List.flatMap_congr h]
    exact List.flatMap_singleton' _
  rw [escape, hflat, String.ofList_toList]

theorem IsPlain.append {s t : String} (hs : IsPlain s) (ht : IsPlain t) : IsPlain (s ++ t) := by
  intro c hc
  rw [String.toList_append, List.mem_append] at hc
  exact hc.elim (hs c) (ht c)

theorem isPlain_toString (n : Nat) : IsPlain (toString n) :=
  fun _ hc => escapeChar_of_isDigit (isDigit_of_mem_toString hc)

theorem isPlain_slug (text : String) : IsPlain (slug text) :=
  forall_mem_slug (P := fun c => escapeChar c = [c]) rfl (fun _ hc => hc.escapeChar_eq) text

theorem isPlain_numbered {slug : String} (h : IsPlain slug) (n : Nat) :
    IsPlain (numbered slug n) := by
  cases n with
  | zero => exact h
  | succ n =>
    have hhyphen : IsPlain "-" := by
      intro c hc
      rw [List.mem_singleton.1 hc]
      rfl
    exact (h.append hhyphen).append (isPlain_toString _)

/-- **The anchor of a heading is not changed by escaping.** -/
theorem Outline.escape_anchor_slug (o : Outline) (text : String) :
    escape (o.anchor (slug text)) = o.anchor (slug text) := by
  rw [anchor_eq]
  exact (isPlain_numbered (isPlain_slug text) _).escape_eq

/-! ### Slugs of two texts, and slugs in markup -/

theorem IsPlain.attr_eq {value : String} (h : IsPlain value) (name : String) :
    attr name value = " " ++ name ++ "=\"" ++ value ++ "\"" := by
  rw [attr, h.escape_eq]

/-- A plain value in quotes is read back, whatever stands behind it. -/
theorem IsPlain.readAttr?_eq {value : String} (h : IsPlain value) (name : String)
    (behind : List Char) :
    readAttr? name ((" " ++ name ++ "=\"" ++ value ++ "\"").toList ++ behind) =
      some (value, behind) := by
  rw [← h.attr_eq, readAttr?_attr]

/-- A heading whose id has nothing to escape is written with its id as an attribute. -/
theorem Fragment.html_heading (heading : Heading) (hid : escape heading.id = heading.id) :
    (Fragment.heading heading).html = "<h" ++ toString heading.level ++ attr "id" heading.id ++
      ">" ++ heading.html ++ "</h" ++ toString heading.level ++ ">" := by
  have hfragment : (Fragment.heading heading).html = "<h" ++ toString heading.level ++
      " id=\"" ++ heading.id ++ "\">" ++ heading.html ++ "</h" ++ toString heading.level ++
        ">" := rfl
  have hopen : " id=\"".toList = " ".toList ++ ("id".toList ++ "=\"".toList) := rfl
  have hclose : "\">".toList = "\"".toList ++ ">".toList := rfl
  rw [hfragment, ← String.toList_inj]
  simp only [attr, hid, String.toList_append, hopen, hclose, List.append_assoc]

/-- In an attribute and behind a number sign a slug is read back as it was written, and the heading
that is written with its anchor as it is, is the heading with its anchor escaped. -/
structure StandsUnescaped (slug : String) : Prop where
  id : ∀ behind, readAttr? "id" ((" id=\"" ++ slug ++ "\"").toList ++ behind) =
    some (slug, behind)
  href : ∀ behind, readAttr? "href" ((" href=\"" ++ ("#" ++ slug) ++ "\"").toList ++ behind) =
    some ("#" ++ slug, behind)
  heading : ∀ (o : Outline) (level : Nat) (html : String),
    (Fragment.heading ⟨level, o.anchor slug, html⟩).html =
      "<h" ++ toString level ++ attr "id" (o.anchor slug) ++ ">" ++ html ++
        "</h" ++ toString level ++ ">"

theorem standsUnescaped_slug (text : String) : StandsUnescaped (slug text) := by
  constructor
  case id => exact (isPlain_slug text).readAttr?_eq "id"
  case href =>
    have hsign : IsPlain "#" := by
      intro c hc
      rw [List.mem_singleton.1 hc]
      rfl
    exact (hsign.append (isPlain_slug text)).readAttr?_eq "href"
  case heading =>
    intro o level html
    exact Fragment.html_heading ⟨level, _, html⟩ (o.escape_anchor_slug text)

/-- **Slugs are composed at separators, and they are clean.** A text without separators has its
letters and numbers in lower case as its slug, and the slug of two texts with a separator between
them is made of the slugs of both, with a hyphen if neither is empty. Every slug is clean and has
nothing to escape. -/
theorem slug_composed_and_clean :
    (∀ text : String, (∀ c ∈ text.toList, isSpace c = false ∧ c ≠ '-' ∧ c ≠ '_') →
      (slug text).toList = (text.toList.filter isAlphanumeric).flatMap lowercase) ∧
    (∀ (a b : String) (c : Char), isSpace c = true ∨ c = '-' ∨ c = '_' →
      slug (a ++ String.ofList [c] ++ b) = hyphenated (slug a) (slug b)) ∧
    ∀ text, IsClean (slug text) ∧ StandsUnescaped (slug text) := by
  refine ⟨fun text h => toList_slug_of_forall fun c hc => ?_,
    fun a b c hc => slug_append_separator ?_ a b,
    fun text => ⟨isClean_slug text, standsUnescaped_slug text⟩⟩
  · simpa [isSlugSeparator, and_assoc] using h c hc
  · simpa [isSlugSeparator, or_assoc] using hc

/-- The lower case of a dotted capital I has a character that is no letter. -/
theorem slug_composed_and_clean_dottedCapital :
    (slug "\"İ&B\"").toList = ['i', '\u0307', 'b'] ∧ slug "C++ guide" = "c-guide" ∧
      slug ("C++ guide" ++ String.ofList ['\u3000'] ++ "\"İ&B\"") = "c-guide-i\u0307b" ∧
      slug ("--!" ++ String.ofList ['_'] ++ "图表") = "图表" := by
  obtain ⟨hword, hcompose, -⟩ := slug_composed_and_clean
  have hletters : (slug "\"İ&B\"").toList = ['i', '\u0307', 'b'] := by
    have hplain : "\"İ&B\"".toList.all fun c => !isSlugSeparator c := by decide +kernel
    rw [hword _ (by simpa [isSlugSeparator, and_assoc] using hplain)]
    decide +kernel
  have hguide : slug "C++ guide" = "c-guide" := by decide +kernel
  refine ⟨hletters, hguide, ?_, ?_⟩
  · have hcapital : slug "\"İ&B\"" = "i\u0307b" := String.toList_inj.1 hletters
    rw [hcompose _ _ _ (.inl (by decide)), hguide, hcapital]
    decide +kernel
  · rw [hcompose _ _ _ (.inr (.inr rfl))]
    decide +kernel

end DiagramDoc
