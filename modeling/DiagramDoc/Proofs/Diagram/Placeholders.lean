import DiagramDoc.Diagram.Processor
import DiagramDoc.Proofs.Document.Headings

/-! # Placeholders in a document

The id of a placeholder names a language, the number of a rendering and a place among the code
blocks, and all three can be read off it again. No two placeholders of a document have the same
place, so no two have the same id, and renderings with different numbers have no id in common. The
headings of a document do not know of its placeholders: a heading whose text spells the id of a
placeholder has that id, too.
-/

namespace DiagramDoc

theorem Language.name_injective {l l' : Language} (h : l.name = l'.name) : l = l' := by
  revert h
  cases l <;> cases l' <;> decide

theorem Placeholder.idOf_eq_iff {l l' : Language} {pass pass' index index' : Nat} :
    idOf l pass index = idOf l' pass' index' ↔ l = l' ∧ pass = pass' ∧ index = index' := by
  constructor
  · intro h
    obtain ⟨hbase, hindex⟩ := append_number_inj h
    obtain ⟨hname, hpass⟩ := append_number_inj hbase
    exact ⟨Language.name_injective hname, hpass, hindex⟩
  · rintro ⟨rfl, rfl, rfl⟩
    rfl

/-! ### The diagrams of a document -/

/-- The language of a diagram, and its place among the code blocks. -/
def Fence.diagram? (fence : Fence) : Option (Language × Nat) :=
  (Language.ofFence? fence.language).map fun language => (language, fence.index)

def diagrams (events : List Event) : List (Language × Nat) :=
  (fences events).filterMap Fence.diagram?

theorem pairwise_diagrams (events : List Event) : (diagrams events).Pairwise (·.2 < ·.2) := by
  refine (pairwise_fencesFrom 0 (codeBlocks events)).2.filterMap Fence.diagram? ?_
  intro fence fence' hlt d hd d' hd'
  obtain ⟨language, -, rfl⟩ := Option.map_eq_some_iff.1 hd
  obtain ⟨language', -, rfl⟩ := Option.map_eq_some_iff.1 hd'
  exact hlt

namespace Processor

variable (p : Processor)

/-- The placeholders of a document: what the processor puts in the place of its fences. -/
def placeholders (events : List Event) : List Placeholder :=
  (fences events).filterMap fun fence => (p.answer? fence).map Prod.fst

theorem id_placeholder (block : DiagramBlock) (attrs : Attributes) (index : Nat) :
    (p.placeholder block attrs index).1.id = block.id := by
  rw [placeholder]
  cases block.language with
  | mermaid => rfl
  | plantUml =>
    dsimp only
    rw [plantUml]
    cases p.encoder <;> rfl

theorem ids_placeholders (events : List Event) : (p.placeholders events).map Placeholder.id =
    (diagrams events).map fun d => Placeholder.idOf d.1 p.pass d.2 := by
  rw [placeholders, diagrams, List.map_filterMap, List.map_filterMap]
  apply List.filterMap_congr
  intro fence _
  rw [answer?, Fence.diagram?, Option.map_map, Option.map_map, Option.map_map]
  cases Language.ofFence? fence.language with
  | none => rfl
  | some language => exact congrArg some (p.id_placeholder _ _ _)

/-- What the processor claims of code blocks is the markup of its placeholders. -/
theorem reduceOption_offerAll (pending : List Warning) (index : Nat) (blocks : List CodeBlock) :
    (offerAll (some p.handler) pending index blocks).1.reduceOption =
      (fencesFrom index blocks).filterMap fun fence => (p.answer? fence).map (·.1.html) := by
  induction blocks generalizing pending index with
  | nil => rfl
  | cons block rest ih =>
    rw [offerAll_cons, fencesFrom_cons]
    cases hfence : block.fence? index with
    | none =>
      rw [offer_of_fence?_eq_none hfence, List.reduceOption_cons_of_none, ih]
      rfl
    | some fence =>
      rw [offer_of_fence?_eq_some hfence, Option.toList_some, List.singleton_append,
        List.filterMap_cons, handler]
      dsimp only
      cases hanswer : p.answer? fence with
      | none => exact (List.reduceOption_cons_of_none _).trans (ih _ _)
      | some answer =>
        rw [Option.map_some, ← ih (pending ++ answer.2)]
        rfl

/-- What the processor puts in the place of a fence does not depend on the fences in front of it. -/
theorem getElem?_offerAll {fence : Fence} (pending : List Warning) (start : Nat)
    {blocks : List CodeBlock} (h : fence ∈ fencesFrom start blocks) :
    (offerAll (some p.handler) pending start blocks).1[fence.index - start]? =
      some ((p.answer? fence).map (·.1.html)) := by
  induction blocks generalizing pending start with
  | nil => exact absurd h List.not_mem_nil
  | cons block rest ih =>
    rw [fencesFrom_cons] at h
    rw [offerAll_cons]
    rcases List.mem_append.1 h with hfirst | hrest
    · have hfence := Option.mem_toList.1 hfirst
      rw [CodeBlock.index_of_fence? hfence, Nat.sub_self, List.getElem?_cons_zero,
        offer_of_fence?_eq_some hfence, handler]
      dsimp only
      cases p.answer? fence <;> rfl
    · have hle := (pairwise_fencesFrom (start + 1) rest).1 fence hrest
      have hplace : fence.index - start = fence.index - (start + 1) + 1 := by omega
      rw [hplace, List.getElem?_cons_succ, ih _ (start + 1) hrest]

theorem claimed_run (breaks extractTitle : Bool) (pending : List Warning) (events : List Event) :
    (Writer.run ⟨breaks, some p.handler⟩ (.start extractTitle pending) events).1.filterMap
        Fragment.claimed? = (p.placeholders events).map Placeholder.html := by
  obtain ⟨layout, last, -, hrun⟩ :=
    Writer.exists_fills_run breaks (.start extractTitle ()) events
  have hclaimed := (hrun _ (some p.handler) pending).claimed
  have hmap : (p.placeholders events).map Placeholder.html =
      (fences events).filterMap fun fence => (p.answer? fence).map (·.1.html) := by
    rw [placeholders, List.map_filterMap]
    apply List.filterMap_congr
    intro fence _
    exact Option.map_map ..
  rw [hmap, fences, ← p.reduceOption_offerAll pending]
  exact hclaimed

theorem nodup_ids_placeholders (events : List Event) :
    ((p.placeholders events).map Placeholder.id).Nodup := by
  rw [ids_placeholders, List.nodup_iff_pairwise_ne, List.pairwise_map]
  refine (pairwise_diagrams events).imp ?_
  intro d d' hlt heq
  exact hlt.ne (Placeholder.idOf_eq_iff.1 heq).2.2

/-- **Every placeholder has an id of its own.** An id stands for one language, rendering and place;
the placeholders that a document is written with have different ids; and two documents that are
written with different numbers of rendering have no id in common. -/
theorem placeholder_ids_unique :
    (∀ (l l' : Language) (pass pass' index index' : Nat),
      Placeholder.idOf l pass index = Placeholder.idOf l' pass' index' ↔
        l = l' ∧ pass = pass' ∧ index = index') ∧
      (∀ (p : Processor) (breaks extractTitle : Bool) (pending : List Warning)
        (events : List Event),
        (Writer.run ⟨breaks, some p.handler⟩ (.start extractTitle pending) events).1.filterMap
            Fragment.claimed? = (p.placeholders events).map Placeholder.html ∧
          ((p.placeholders events).map Placeholder.id).Nodup) ∧
      ∀ (p p' : Processor) (events events' : List Event), p.pass ≠ p'.pass →
        ((p.placeholders events).map Placeholder.id).Disjoint
          ((p'.placeholders events').map Placeholder.id) := by
  refine ⟨fun l l' pass pass' index index' => Placeholder.idOf_eq_iff,
    fun p breaks extractTitle pending events =>
      ⟨p.claimed_run breaks extractTitle pending events, p.nodup_ids_placeholders events⟩, ?_⟩
  intro p p' events events' hpass
  rw [ids_placeholders, ids_placeholders, List.disjoint_left]
  intro id hid hid'
  obtain ⟨d, -, rfl⟩ := List.mem_map.1 hid
  obtain ⟨d', -, heq⟩ := List.mem_map.1 hid'
  exact hpass (Placeholder.idOf_eq_iff.1 heq).2.1.symm

/-- A diagram that is not finished, two that are, and code between them. -/
def mixedBlocks : List Event := [
  .enter (.fencedCode "mermaid"), .text "lost", .enter (.image "u" ""), .leave .codeBlock,
  .enter (.fencedCode "Mermaid"), .text "graph TD\n", .leave .codeBlock,
  .enter (.fencedCode "rust"), .text "x", .leave .codeBlock,
  .enter .indentedCode, .text "y", .leave .codeBlock,
  .enter (.fencedCode "puml format=png"), .text "a->b\n", .leave .codeBlock]

theorem placeholder_ids_unique_mixedBlocks :
    ((standard 1).placeholders mixedBlocks).map Placeholder.id = ["mermaid-1-0", "plantuml-1-3"] ∧
      (((standard 1).placeholders mixedBlocks).map Placeholder.id).Nodup ∧
      (standard 1).pass ≠ (standard 2).pass ∧
      (((standard 1).placeholders mixedBlocks).map Placeholder.id).Disjoint
        (((standard 2).placeholders mixedBlocks).map Placeholder.id) := by
  have hids : ((standard 1).placeholders mixedBlocks).map Placeholder.id =
      ["mermaid-1-0", "plantuml-1-3"] := by
    decide +kernel
  have hpass : (standard 1).pass ≠ (standard 2).pass := by decide
  obtain ⟨-, hunique, hdisjoint⟩ := placeholder_ids_unique
  exact ⟨hids, (hunique (standard 1) false false [] mixedBlocks).2, hpass,
    hdisjoint (standard 1) (standard 2) mixedBlocks mixedBlocks hpass⟩

/-! ### Headings with the id of a placeholder -/

/-- An id of a placeholder is an anchor if it is a slug, or a slug with the number of its use. -/
theorem idOf_mem_anchors_iff {l : Language} {pass index : Nat} {slugs : List String} :
    Placeholder.idOf l pass index ∈ anchors slugs ↔
      Placeholder.idOf l pass index ∈ slugs ∨
        0 < index ∧ index < slugs.count (l.name ++ "-" ++ toString pass) := by
  rw [mem_anchors]
  constructor
  · rintro ⟨slug, n, hlt, heq⟩
    rcases Nat.eq_zero_or_pos n with rfl | hpos
    · rw [heq]
      exact Or.inl (List.count_pos_iff.1 hlt)
    · rw [numbered_eq hpos] at heq
      obtain ⟨hslug, rfl⟩ := append_number_inj heq
      exact Or.inr ⟨hpos, hslug ▸ hlt⟩
  · rintro (hmem | ⟨hpos, hlt⟩)
    · exact ⟨_, 0, List.count_pos_iff.2 hmem, rfl⟩
    · exact ⟨_, index, hlt, (numbered_eq hpos).symm⟩

/-- **A heading takes the id of a placeholder exactly if its slug spells it**, or if it is the use
of a slug that makes it up with its number. -/
theorem disjoint_headingIds_iff (p : Processor) (breaks extractTitle : Bool)
    (pending : List Warning) (events : List Event) :
    (Writer.run ⟨breaks, some p.handler⟩ (.start extractTitle pending) events).1.filterMap
        Fragment.claimed? = (p.placeholders events).map Placeholder.html ∧
      (((p.placeholders events).map Placeholder.id).Disjoint
          (headingIds
            (Writer.run ⟨breaks, some p.handler⟩ (.start extractTitle pending) events).1) ↔
        ∀ d ∈ diagrams events,
          Placeholder.idOf d.1 p.pass d.2 ∉
            (Writer.run ⟨breaks, some p.handler⟩ (.start extractTitle pending)
              events).2.outline.slugs ∧
          ¬ (0 < d.2 ∧
            d.2 < (Writer.run ⟨breaks, some p.handler⟩ (.start extractTitle pending)
              events).2.outline.slugs.count (d.1.name ++ "-" ++ toString p.pass))) := by
  refine ⟨p.claimed_run breaks extractTitle pending events, ?_⟩
  rw [ids_placeholders, headingIds_run, List.disjoint_left, List.forall_mem_map]
  simp only [idOf_mem_anchors_iff, not_or]

/-- A heading, and a diagram as the first code block. -/
def spelledId : List Event := [
  .enter (.heading 2), .text "Mermaid 1 0", .leave .heading,
  .enter (.fencedCode "mermaid"), .text "graph TD\n", .leave .codeBlock]

/-- In the first rendering the heading and the diagram have the same id. -/
theorem not_disjoint_headingIds_spelledId :
    ¬ (((standard 1).placeholders spelledId).map Placeholder.id).Disjoint
      (headingIds (Writer.run ⟨false, some (standard 1).handler⟩ (.start false [])
        spelledId).1) := by
  intro h
  have hplaceholder : "mermaid-1-0" ∈ ((standard 1).placeholders spelledId).map Placeholder.id := by
    decide +kernel
  have hheading : "mermaid-1-0" ∈ headingIds (Writer.run ⟨false, some (standard 1).handler⟩
      (.start false []) spelledId).1 := by
    decide +kernel
  exact List.disjoint_left.1 h hplaceholder hheading

end Processor

end DiagramDoc
