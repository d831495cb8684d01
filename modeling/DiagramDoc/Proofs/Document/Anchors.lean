import DiagramDoc.Document.Outline
import DiagramDoc.Proofs.Text.Numbered

/-! # Anchors of headings

The anchors of a document depend on the slugs of its headings only. The first heading with a slug
has the slug itself as its anchor, and each later one has the slug with a number. Two anchors can
only be the same if a slug with its number is the slug of a heading, too.
-/

namespace DiagramDoc

open Text

/-- The anchor of a heading whose slug was used `n` times before. -/
def numbered (slug : String) : Nat → String
  | 0 => slug
  | n + 1 => slug ++ "-" ++ toString (n + 1)

theorem numbered_eq {slug : String} {n : Nat} (h : 0 < n) :
    numbered slug n = slug ++ "-" ++ toString n := by
  obtain ⟨n, rfl⟩ : ∃ k, n = k + 1 := ⟨n - 1, by omega⟩
  rfl

/-- The anchors of headings with these slugs. -/
def anchors (slugs : List String) : List String :=
  slugs.zipIdx.map fun (slug, i) => numbered slug ((slugs.take i).count slug)

/-- A repeated slug and one of its numbers make up another slug. -/
def Collide (slugs : List String) : Prop :=
  ∃ slug n, 0 < n ∧ n < slugs.count slug ∧ slug ++ "-" ++ toString n ∈ slugs

variable {slugs : List String} {slug : String}

theorem anchors_append_singleton (slugs : List String) (slug : String) :
    anchors (slugs ++ [slug]) = anchors slugs ++ [numbered slug (slugs.count slug)] := by
  rw [anchors, List.zipIdx_append, List.map_append, anchors]
  congr 1
  · apply List.map_congr_left
    rintro ⟨earlier, i⟩ hearlier
    have hlt : i < slugs.length := List.snd_lt_of_mem_zipIdx hearlier
    dsimp only
    rw [List.take_append_of_le_length hlt.le]
  · simp

theorem mem_anchors {id : String} :
    id ∈ anchors slugs ↔ ∃ slug n, n < slugs.count slug ∧ id = numbered slug n := by
  induction slugs using List.reverseRecOn with
  | nil => simp [anchors]
  | append_singleton slugs last ih =>
    rw [anchors_append_singleton, List.mem_append, List.mem_singleton, ih]
    constructor
    · rintro (⟨slug, n, hn, rfl⟩ | rfl)
      · exact ⟨slug, n, by rw [List.count_append]; omega, rfl⟩
      · exact ⟨last, slugs.count last, by simp, rfl⟩
    · rintro ⟨slug, n, hn, rfl⟩
      rw [List.count_append, List.count_singleton] at hn
      by_cases hold : n < slugs.count slug
      · exact Or.inl ⟨slug, n, hold, rfl⟩
      · split at hn
        · next hlast =>
          obtain rfl := beq_iff_eq.1 hlast
          exact Or.inr (by rw [show n = slugs.count last by omega])
        · omega

theorem Collide.append_singleton (h : Collide slugs) (slug : String) :
    Collide (slugs ++ [slug]) := by
  obtain ⟨base, n, hpos, hlt, hmem⟩ := h
  exact ⟨base, n, hpos, by rw [List.count_append]; omega, List.mem_append_left _ hmem⟩

/-- One more heading gets an anchor that is already there exactly if the slugs now collide. -/
theorem collide_append_singleton_iff (hfree : ¬ Collide slugs) :
    Collide (slugs ++ [slug]) ↔ numbered slug (slugs.count slug) ∈ anchors slugs := by
  rw [mem_anchors]
  constructor
  · rintro ⟨base, n, hpos, hlt, hmem⟩
    by_cases hold : n < slugs.count base
    · -- the new slug is the old one with its number
      have hnew : base ++ "-" ++ toString n = slug := by
        rcases List.mem_append.1 hmem with hmem | hmem
        · exact absurd ⟨base, n, hpos, hold, hmem⟩ hfree
        · exact List.mem_singleton.1 hmem
      have hunused : slugs.count slug = 0 := by
        rw [List.count_eq_zero, ← hnew]
        exact fun hmem => hfree ⟨base, n, hpos, hold, hmem⟩
      refine ⟨base, n, hold, ?_⟩
      rw [hunused, numbered_eq hpos, hnew]
      rfl
    · -- the new slug with its number is an old one
      rw [List.count_append, List.count_singleton] at hlt
      have hbase : slug = base := by
        by_contra hne
        rw [if_neg (by simpa using hne)] at hlt
        exact hold hlt
      rw [hbase, if_pos (beq_self_eq_true base)] at hlt
      have hcount : n = slugs.count base := by omega
      refine ⟨base ++ "-" ++ toString n, 0, ?_, ?_⟩
      · rw [List.count_pos_iff]
        apply (List.mem_append.1 hmem).resolve_right
        intro hlast
        exact append_number_ne base n ((List.mem_singleton.1 hlast).trans hbase)
      · rw [hbase, ← hcount, numbered_eq hpos]
        rfl
  · rintro ⟨base, n, hlt, heq⟩
    rcases Nat.eq_zero_or_pos (slugs.count slug) with hunused | hused
    · rcases Nat.eq_zero_or_pos n with rfl | hpos
      · -- both are slugs
        rw [hunused, numbered, numbered] at heq
        rw [heq] at hunused
        omega
      · rw [hunused, numbered_eq hpos] at heq
        refine ⟨base, n, hpos, by rw [List.count_append]; omega, ?_⟩
        rw [← heq]
        exact List.mem_append_right _ List.mem_cons_self
    · rw [numbered_eq hused] at heq
      rcases Nat.eq_zero_or_pos n with rfl | hpos
      · refine ⟨slug, slugs.count slug, hused, by simp, ?_⟩
        rw [heq]
        exact List.mem_append_left _ (List.count_pos_iff.1 hlt)
      · -- both have a number
        rw [numbered_eq hpos] at heq
        obtain ⟨rfl, hnumber⟩ := append_number_inj heq
        omega

/-- **Anchors are distinct unless slugs collide.** -/
theorem nodup_anchors_iff : (anchors slugs).Nodup ↔ ¬ Collide slugs := by
  induction slugs using List.reverseRecOn with
  | nil => simp [anchors, Collide]
  | append_singleton slugs slug ih =>
    rw [anchors_append_singleton, ← List.concat_eq_append, List.nodup_concat, ih]
    constructor
    · rintro ⟨hnew, hfree⟩
      rwa [collide_append_singleton_iff hfree]
    · intro hnone
      have hfree : ¬ Collide slugs := fun h => hnone (h.append_singleton slug)
      rw [collide_append_singleton_iff hfree] at hnone
      exact ⟨hnone, hfree⟩

/-! ### Collecting headings -/

namespace Outline

/-- What is done with an outline while a document is written. -/
inductive Call where
  | openHeading (level : Nat)
  | push (text html : String)
  | close
  deriving DecidableEq, Repr

/-- The heading that a call gives, if it closes one, and the outline behind the call. -/
def call (o : Outline) : Call → Option Heading × Outline
  | .openHeading level => (none, o.openHeading level)
  | .push text html => (none, o.push text html)
  | .close => o.close

/-- The headings that calls give one after the other, and the outline behind them. -/
def run (o : Outline) : List Call → List Heading × Outline
  | [] => ([], o)
  | c :: rest =>
    let (heading, next) := o.call c
    let (headings, last) := next.run rest
    (heading.toList ++ headings, last)

theorem anchor_eq (o : Outline) (slug : String) :
    o.anchor slug = numbered slug (o.slugs.count slug) := by
  rw [anchor]
  cases o.slugs.count slug <;> rfl

/-- The heading that is closed gets the next anchor, and at most one entry of the contents. -/
theorem close_spec (o : Outline) :
    anchors o.close.2.slugs = anchors o.slugs ++ o.close.1.toList.map Heading.id ∧
      ∃ entries, o.close.2.toc = o.toc ++ entries ∧
        (entries.map TocEntry.id).Sublist (o.close.1.toList.map Heading.id) := by
  rw [close]
  cases o.current with
  | none => exact ⟨(List.append_nil _).symm, [], (List.append_nil _).symm, List.nil_sublist _⟩
  | some h =>
    have hid := o.anchor_eq (slug (trimmed h.text))
    dsimp only
    split
    · refine ⟨?_, [], (List.append_nil _).symm, List.nil_sublist _⟩
      rw [anchors_append_singleton, hid]
      rfl
    · refine ⟨?_, _, rfl, List.Sublist.refl _⟩
      rw [anchors_append_singleton, hid]
      rfl

theorem call_spec (o : Outline) (c : Call) :
    anchors (o.call c).2.slugs = anchors o.slugs ++ (o.call c).1.toList.map Heading.id ∧
      ∃ entries, (o.call c).2.toc = o.toc ++ entries ∧
        (entries.map TocEntry.id).Sublist ((o.call c).1.toList.map Heading.id) := by
  cases c with
  | openHeading level =>
    exact ⟨(List.append_nil _).symm, [], (List.append_nil _).symm, List.nil_sublist _⟩
  | push text html =>
    exact ⟨(List.append_nil _).symm, [], (List.append_nil _).symm, List.nil_sublist _⟩
  | close => exact o.close_spec

theorem run_spec (o : Outline) (calls : List Call) :
    anchors (o.run calls).2.slugs = anchors o.slugs ++ (o.run calls).1.map Heading.id ∧
      ∃ entries, (o.run calls).2.toc = o.toc ++ entries ∧
        (entries.map TocEntry.id).Sublist ((o.run calls).1.map Heading.id) := by
  induction calls generalizing o with
  | nil => exact ⟨(List.append_nil _).symm, [], (List.append_nil _).symm, List.nil_sublist _⟩
  | cons c calls ih =>
    obtain ⟨hanchors, entries, htoc, hsub⟩ := o.call_spec c
    obtain ⟨hanchors', entries', htoc', hsub'⟩ := ih (o.call c).2
    rw [run]
    dsimp only
    rw [List.map_append]
    refine ⟨?_, entries ++ entries', ?_, ?_⟩
    · rw [hanchors', hanchors, List.append_assoc]
    · rw [htoc', htoc, List.append_assoc]
    · rw [List.map_append]
      exact hsub.append hsub'

/-- **The anchors of a document are distinct exactly if no repeated slug has one of its numbers in
another heading's slug.** Then every entry of the contents leads to one heading. -/
theorem nodup_ids_iff (extractTitle : Bool) (calls : List Call) :
    ((((empty extractTitle).run calls).1.map Heading.id).Nodup ↔
        ¬ Collide ((empty extractTitle).run calls).2.slugs) ∧
      (¬ Collide ((empty extractTitle).run calls).2.slugs →
        ∀ entry ∈ ((empty extractTitle).run calls).2.toc,
          (((empty extractTitle).run calls).1.map Heading.id).count entry.id = 1) := by
  obtain ⟨hanchors, entries, htoc, hsub⟩ := (empty extractTitle).run_spec calls
  have hids : ((empty extractTitle).run calls).1.map Heading.id =
      anchors ((empty extractTitle).run calls).2.slugs := hanchors.symm
  constructor
  · rw [hids]
    exact nodup_anchors_iff
  · intro hfree entry hentry
    have hmem : entry.id ∈ ((empty extractTitle).run calls).1.map Heading.id := by
      apply hsub.subset
      apply List.mem_map_of_mem
      rw [htoc] at hentry
      exact hentry
    rw [hids] at hmem ⊢
    exact List.count_eq_one_of_mem (nodup_anchors_iff.2 hfree) hmem

/-- Three headings, of which the last two have the same anchor. -/
theorem not_nodup_ids_faq :
    ¬ (((empty false).run [.openHeading 2, .push "FAQ" "FAQ", .close, .openHeading 2,
      .push "FAQ" "FAQ", .close, .openHeading 2, .push "FAQ 1" "FAQ 1", .close]).1.map
        Heading.id).Nodup := by
  decide +kernel

end Outline

end DiagramDoc
