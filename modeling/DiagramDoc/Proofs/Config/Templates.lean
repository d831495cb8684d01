import DiagramDoc.Config.Loading
import DiagramDoc.Proofs.Text.Spans

/-! # Filling templates

A template is read as it was written: characters that are no dollar signs, and references in braces
with or without a fallback. A name has no colon and no brace in it, so a reference ends where its
brace is closed and its fallback starts behind the first colon and hyphen, whatever the fallback
spells. What is put in the place of a reference is not read again.
-/

namespace DiagramDoc

open Text

namespace TemplatePart

/-! ### Reading -/

variable {c : Char} {cs inner rest name fallback : List Char}

theorem isTemplate_iff : isTemplate cs = true ↔ ['$', '\x7b'] <:+: cs := by
  induction cs with
  | nil => simp [isTemplate]
  | cons c cs ih =>
    have hhead : (c == '$' && cs.head? == some '\x7b') = true ↔ ['$', '\x7b'] <+: c :: cs := by
      rw [Bool.and_eq_true, beq_iff_eq, beq_iff_eq, List.cons_prefix_cons, eq_comm]
      cases cs with
      | nil => simp
      | cons d cs => simp [eq_comm]
    rw [isTemplate, Bool.or_eq_true, ih, hhead, List.infix_cons_iff]

theorem read_literal (hc : c ≠ '$') : read (c :: rest) = .literal c :: read rest := by
  rw [read] <;> intros <;> contradiction

/-- Behind the inner text of a group stands its closing brace. -/
theorem stops_brace : Stops (· != '\x7d') ('\x7d' :: rest) := stops_cons.2 (by decide)

theorem bne_brace_of_notMem (hinner : '\x7d' ∉ inner) : ∀ d ∈ inner, (d != '\x7d') = true :=
  fun _ hd => bne_iff_ne.2 fun heq => hinner (heq ▸ hd)

theorem read_group (hinner : '\x7d' ∉ inner) (rest : List Char) :
    read ('$' :: '\x7b' :: (inner ++ '\x7d' :: rest)) = ofBraces inner :: read rest := by
  have hkept := bne_brace_of_notMem hinner
  have hclosed : (inner ++ '\x7d' :: rest).contains '\x7d' = true := by simp
  rw [read, if_pos hclosed, takeWhile_append hkept stops_brace, dropWhile_append hkept stops_brace]
  rfl

theorem cutFallback_cons (hc : c ≠ ':') :
    cutFallback (c :: rest) = (cutFallback rest).map fun cut => (c :: cut.1, cut.2) := by
  rw [cutFallback]
  rintro _ rfl
  exact absurd rfl hc

theorem cutFallback_of_notMem (h : ':' ∉ name) : cutFallback name = none := by
  induction name with
  | nil => rfl
  | cons c name ih =>
    rw [List.mem_cons, not_or] at h
    rw [cutFallback_cons (Ne.symm h.1), ih h.2]
    rfl

theorem cutFallback_append (h : ':' ∉ name) :
    cutFallback (name ++ ':' :: '-' :: fallback) = some (name, fallback) := by
  induction name with
  | nil => rfl
  | cons c name ih =>
    rw [List.mem_cons, not_or] at h
    rw [List.cons_append, cutFallback_cons (Ne.symm h.1), ih h.2]
    rfl

/-! ### Writing -/

/-- How a part is written in a template. -/
def written : TemplatePart → List Char
  | literal c => [c]
  | reference name none => "$\x7b".toList ++ name.toList ++ "\x7d".toList
  | reference name (some fallback) =>
    "$\x7b".toList ++ name.toList ++ ":-".toList ++ fallback.toList ++ "\x7d".toList

/-- A character that is no dollar sign, or a reference by a word of letters, digits and underscores
with a fallback that does not close the brace. -/
def IsWritable : TemplatePart → Prop
  | literal c => c ≠ '$'
  | reference name fallback =>
    name ≠ "" ∧ (∀ c ∈ name.toList, inName c = true) ∧ ∀ text ∈ fallback, '\x7d' ∉ text.toList

instance : DecidablePred IsWritable
  | literal c => inferInstanceAs (Decidable (c ≠ '$'))
  | reference name fallback => decidable_of_iff (name ≠ "" ∧ name.toList.all inName = true ∧
      ∀ text ∈ fallback, '\x7d' ∉ text.toList) (by simp only [IsWritable, List.all_eq_true])

theorem notMem_of_inName (hname : ∀ c ∈ name, inName c = true) :
    ':' ∉ name ∧ '\x7d' ∉ name :=
  ⟨fun h => absurd (hname _ h) (by decide), fun h => absurd (hname _ h) (by decide)⟩

theorem read_written_append {part : TemplatePart} (h : part.IsWritable) :
    read (part.written ++ rest) = part :: read rest := by
  cases part with
  | literal c => exact read_literal h
  | reference name fallback =>
    obtain ⟨hne, hname, hfallback⟩ := h
    obtain ⟨hcolon, hbrace⟩ := notMem_of_inName hname
    cases fallback with
    | none =>
      have hread := read_group hbrace rest
      rw [ofBraces, cutFallback_of_notMem hcolon, String.ofList_toList] at hread
      simpa [written] using hread
    | some fallback =>
      obtain ⟨c, tail, hcons⟩ :=
        List.exists_cons_of_ne_nil fun h => hne (String.toList_eq_nil_iff.1 h)
      have hinner : '\x7d' ∉ name.toList ++ ':' :: '-' :: fallback.toList := by
        have hfallback := hfallback fallback rfl
        simp [hbrace, hfallback]
      have hread := read_group hinner rest
      rw [ofBraces, cutFallback_append hcolon, hcons] at hread
      dsimp only at hread
      rw [← hcons, String.ofList_toList, String.ofList_toList] at hread
      simpa [written] using hread

/-- **A template is read as it was written.** -/
theorem read_flatMap_written {parts : List TemplatePart} (h : ∀ part ∈ parts, part.IsWritable) :
    read (parts.flatMap written) = parts := by
  induction parts with
  | nil => rw [List.flatMap_nil, read]
  | cons part parts ih =>
    obtain ⟨hpart, hparts⟩ := List.forall_mem_cons.1 h
    rw [List.flatMap_cons, read_written_append hpart, ih hparts]

/-! ### Filling -/

/-- What stands in the place of a part: the value of the variable, or else the fallback. -/
def shown (environment : Environment) : TemplatePart → List Char
  | literal c => [c]
  | reference name fallback => (((environment.value? name).or fallback).getD "").toList

/-- The variables that parts refer to without a fallback are set. -/
def AreSet (environment : Environment) (parts : List TemplatePart) : Prop :=
  ∀ name, .reference name none ∈ parts → environment.value? name ≠ none

variable {environment : Environment} {part : TemplatePart} {parts : List TemplatePart}

theorem fill_eq_ok (h : AreSet environment [part]) :
    part.fill environment = .ok (part.shown environment) := by
  cases part with
  | literal c => rfl
  | reference name fallback =>
    cases hvalue : environment.value? name with
    | some value => simp only [fill, shown, hvalue, Option.some_or, Option.getD_some]
    | none =>
      cases fallback with
      | some fallback => simp only [fill, shown, hvalue, Option.none_or, Option.getD_some]
      | none => exact absurd hvalue (h name List.mem_cons_self)

theorem fill_eq_error {name : String} (h : environment.value? name = none) :
    (reference name none).fill environment = .error name := by
  simp only [fill, h]

theorem areSet_cons :
    AreSet environment (part :: parts) ↔ AreSet environment [part] ∧ AreSet environment parts := by
  simp only [AreSet, List.mem_cons, List.not_mem_nil, or_false]
  exact ⟨fun h => ⟨fun name hname => h name (.inl hname), fun name hname => h name (.inr hname)⟩,
    fun h name hname => hname.elim (h.1 name) (h.2 name)⟩

theorem not_areSet_singleton (h : ¬ AreSet environment [part]) :
    ∃ name, part = .reference name none ∧ environment.value? name = none := by
  simpa [AreSet, eq_comm] using h

theorem areSet_nil : AreSet environment [] := fun _ h => absurd h List.not_mem_nil

/-- Parts are filled one by one, up to the first that cannot be. -/
theorem fillAll_spec (environment : Environment) (parts : List TemplatePart) :
    AreSet environment parts ∧
        fillAll environment parts = .ok (parts.flatMap (shown environment)) ∨
      ∃ before name after, parts = before ++ .reference name none :: after ∧
        AreSet environment before ∧ environment.value? name = none ∧
        fillAll environment parts = .error name := by
  induction parts with
  | nil => exact .inl ⟨areSet_nil, rfl⟩
  | cons part parts ih =>
    rw [fillAll]
    by_cases hpart : AreSet environment [part]
    · rw [fill_eq_ok hpart]
      rcases ih with ⟨hset, hfill⟩ | ⟨before, name, after, rfl, hset, hname, hfill⟩
      · refine .inl ⟨areSet_cons.2 ⟨hpart, hset⟩, ?_⟩
        rw [hfill]
        rfl
      · refine .inr ⟨part :: before, name, after, rfl, areSet_cons.2 ⟨hpart, hset⟩, hname, ?_⟩
        rw [hfill]
        rfl
    · obtain ⟨name, rfl, hname⟩ := not_areSet_singleton hpart
      refine .inr ⟨[], name, parts, rfl, areSet_nil, hname, ?_⟩
      rw [fill_eq_error hname]

/-! ### Values -/

theorem read_of_notMem (h : '$' ∉ cs) : read cs = cs.map literal := by
  induction cs with
  | nil => rw [read, List.map_nil]
  | cons c cs ih =>
    rw [List.mem_cons, not_or] at h
    rw [read_literal (Ne.symm h.1), ih h.2, List.map_cons]

theorem fillAll_map_literal (environment : Environment) (cs : List Char) :
    fillAll environment (cs.map literal) = .ok cs := by
  induction cs with
  | nil => rfl
  | cons c cs ih => rw [List.map_cons, fillAll, ih]; rfl

/-- A value without dollar signs is the same whether it is taken for a template or not. -/
theorem expandValue_eq (environment : Environment) {value : String}
    (h : ['$', '\x7b'] <:+: value.toList ∨ '$' ∉ value.toList) :
    expandValue environment value =
      (fillAll environment (read value.toList)).map String.ofList := by
  rw [expandValue]
  split
  · rfl
  · next hplain =>
    have hdollar : '$' ∉ value.toList :=
      h.resolve_left fun hopens => hplain (isTemplate_iff.2 hopens)
    rw [read_of_notMem hdollar, fillAll_map_literal, Except.map, String.ofList_toList]

/-- What is written has a reference in it, or no dollar sign at all. -/
theorem infix_or_notMem_written (h : ∀ part ∈ parts, part.IsWritable) :
    ['$', '\x7b'] <:+: parts.flatMap written ∨ '$' ∉ parts.flatMap written := by
  by_cases hreference : ∃ name fallback, .reference name fallback ∈ parts
  · left
    obtain ⟨name, fallback, hmem⟩ := hreference
    obtain ⟨before, after, rfl⟩ := List.append_of_mem hmem
    have hstart : ['$', '\x7b'] <+: (reference name fallback).written := by
      cases fallback <;> simp [written]
    rw [List.flatMap_append, List.flatMap_cons]
    exact hstart.isInfix.trans (List.infix_append_of_infix_right (List.prefix_append _ _).isInfix)
  · right
    rw [List.mem_flatMap]
    rintro ⟨part, hpart, hdollar⟩
    cases part with
    | literal c => exact h _ hpart (List.mem_singleton.1 hdollar).symm
    | reference name fallback => exact hreference ⟨name, fallback, hpart⟩

end TemplatePart

open TemplatePart in
/-- **A template is filled from left to right, and what is filled in is not read again.** If all
variables without a fallback are set, each reference becomes the value of its variable or else its
fallback. Otherwise the first of these variables that is not set is the error. -/
theorem expandField_written (environment : Environment) (field : String)
    {parts : List TemplatePart} (h : ∀ part ∈ parts, part.IsWritable) :
    AreSet environment parts ∧
        expandField environment field (String.ofList (parts.flatMap written)) =
          .ok (String.ofList (parts.flatMap (shown environment))) ∨
      ∃ before name after, parts = before ++ .reference name none :: after ∧
        AreSet environment before ∧ environment.value? name = none ∧
        expandField environment field (String.ofList (parts.flatMap written)) =
          .error (.unset field name) := by
  have hdollars := infix_or_notMem_written h
  rw [← String.toList_ofList (l := parts.flatMap written)] at hdollars
  rw [expandField, expandValue_eq environment hdollars, String.toList_ofList,
    read_flatMap_written h]
  rcases fillAll_spec environment parts with
    ⟨hset, hfill⟩ | ⟨before, name, after, hparts, hset, hname, hfill⟩
  · left
    rw [hfill]
    exact ⟨hset, rfl⟩
  · right
    rw [hfill]
    exact ⟨before, name, after, hparts, hset, hname, rfl⟩

/-- A template with a variable whose value looks like a template, one whose value is empty, and one
whose fallback looks like a template. -/
def nestedTemplate : List TemplatePart := [
  .literal 'x', .reference "A" none, .reference "B" (some "z"), .reference "C" (some "$\x7bA:-$$")]

def nestedEnvironment : Environment := [("A", "$\x7bD\x7d"), ("B", "")]

theorem expandField_written_nestedTemplate :
    (∀ part ∈ nestedTemplate, part.IsWritable) ∧
      expandField nestedEnvironment "server" "x$\x7bA\x7d$\x7bB:-z\x7d$\x7bC:-$\x7bA:-$$\x7d" =
        .ok "x$\x7bD\x7d$\x7bA:-$$" ∧
      expandField [] "server" "x$\x7bA\x7d$\x7bB:-z\x7d$\x7bC:-$\x7bA:-$$\x7d" =
        .error (.unset "server" "A") := by
  have hwritable : ∀ part ∈ nestedTemplate, part.IsWritable := by decide
  refine ⟨hwritable, ?_, ?_⟩
  · rcases expandField_written nestedEnvironment "server" hwritable with
      ⟨-, hfilled⟩ | ⟨before, name, after, hparts, -, hname, -⟩
    · exact hfilled
    · have hmem : .reference name none ∈ nestedTemplate := by simp [hparts]
      obtain rfl : name = "A" := by simpa [nestedTemplate] using hmem
      cases hname
  · rcases expandField_written [] "server" hwritable with
      ⟨hset, -⟩ | ⟨before, name, after, hparts, -, -, hfails⟩
    · exact absurd rfl (hset "A" (by decide))
    · have hmem : .reference name none ∈ nestedTemplate := by simp [hparts]
      obtain rfl : name = "A" := by simpa [nestedTemplate] using hmem
      exact hfails

end DiagramDoc
