import Mathlib.Tactic
import DiagramDoc.Html.Escape
import DiagramDoc.Text.White

/-! # Tags of a text

Markup is read one character at a time: between tags, inside a tag, or inside an attribute value.
Angle brackets and double quotes are the marks that lead from one place to another, and each place
allows only its own; what is neither a tag nor an attribute name is left out. Escaped text has no
marks, so it cannot lead anywhere, whether it stands between tags or in a value.
-/

namespace DiagramDoc.Html

open Text

/-- A character that opens or ends a tag or an attribute value. -/
def isMark (c : Char) : Bool := c == '<' || c == '>' || c == '"'

def IsUnmarked (cs : List Char) : Prop := ∀ c ∈ cs, isMark c = false

instance (cs : List Char) : Decidable (IsUnmarked cs) := List.decidableBAll _ cs

/-- What has been read: the tags that are complete, and the tag and the place where the reading
stands. -/
inductive Reading where
  | text (tags : List (List Char))
  | tag (tags : List (List Char)) (current : List Char)
  | value (tags : List (List Char)) (current : List Char)
  | broken
  deriving DecidableEq, Repr

namespace Reading

def step : Reading → Char → Reading
  | text tags, c =>
    if c = '<' then tag tags [] else if isMark c then broken else text tags
  | tag tags current, c =>
    if c = '>' then text (tags ++ [current])
    else if c = '"' then value tags (current ++ ['"'])
    else if isMark c then broken
    else tag tags (current ++ [c])
  | value tags current, c =>
    if c = '"' then tag tags (current ++ ['"']) else if isMark c then broken else value tags current
  | broken, _ => broken

end Reading

/-- The tags of a text, each with the names of its attributes and without their values. A text in
which a mark is out of place has none. -/
def tags? (cs : List Char) : Option (List (List Char)) :=
  match cs.foldl Reading.step (.text []) with
  | .text tags => some tags
  | _ => none

example : tags? "a <b c=\"d e\">f</b>".toList = some ["b c=\"\"".toList, "/b".toList] := by
  decide

example : tags? "a > b".toList = none := by decide

/-- Between tags, `cs` has the tags `found` and leads back there. -/
def Reads (cs : List Char) (found : List (List Char)) : Prop :=
  ∀ tags, cs.foldl Reading.step (.text tags) = .text (tags ++ found)

/-- Inside a tag, `cs` is a part of it, written `shown` without the values. -/
def ReadsInside (cs shown : List Char) : Prop :=
  ∀ tags current, cs.foldl Reading.step (.tag tags current) = .tag tags (current ++ shown)

variable {xs ys : List Char} {found more : List (List Char)} {shown : List Char}

/-! ### Tags before the text -/

namespace Reading

def behind (before : List (List Char)) : Reading → Reading
  | text tags => text (before ++ tags)
  | tag tags current => tag (before ++ tags) current
  | value tags current => value (before ++ tags) current
  | broken => broken

theorem step_behind (before : List (List Char)) (r : Reading) (c : Char) :
    (r.behind before).step c = (r.step c).behind before := by
  cases r with
  | text tags =>
    simp only [behind, step]
    split_ifs <;> rfl
  | tag tags current =>
    simp only [behind, step, List.append_assoc]
    split_ifs <;> rfl
  | value tags current =>
    simp only [behind, step]
    split_ifs <;> rfl
  | broken => rfl

theorem foldl_step_behind (before : List (List Char)) (r : Reading) (cs : List Char) :
    cs.foldl step (r.behind before) = (cs.foldl step r).behind before := by
  induction cs generalizing r with
  | nil => rfl
  | cons c cs ih => rw [List.foldl_cons, List.foldl_cons, step_behind, ih]

end Reading

/-- The tags of a text are the same behind any others. -/
theorem tags?_eq_some_iff : tags? xs = some found ↔ Reads xs found := by
  constructor
  · intro h before
    have hbehind := Reading.foldl_step_behind before (.text []) xs
    rw [Reading.behind, List.append_nil] at hbehind
    rw [tags?] at h
    split at h
    · next read hread => rw [hbehind, hread, Option.some.inj h, Reading.behind]
    · cases h
  · intro h
    rw [tags?, h, List.nil_append]

/-! ### Texts without marks -/

theorem Reading.step_text {c : Char} (hc : isMark c = false) (tags : List (List Char)) :
    (text tags).step c = text tags := by
  have hne : c ≠ '<' := by
    rintro rfl
    cases hc
  rw [step, if_neg hne, hc]
  rfl

theorem Reading.step_tag {c : Char} (hc : isMark c = false) (tags : List (List Char))
    (current : List Char) : (tag tags current).step c = tag tags (current ++ [c]) := by
  have hne {d : Char} (hd : isMark d = true) : c ≠ d := by
    rintro rfl
    rw [hd] at hc
    cases hc
  rw [step, if_neg (hne rfl), if_neg (hne rfl), hc]
  rfl

theorem Reading.step_value {c : Char} (hc : isMark c = false) (tags : List (List Char))
    (current : List Char) : (value tags current).step c = value tags current := by
  have hne : c ≠ '"' := by
    rintro rfl
    cases hc
  rw [step, if_neg hne, hc]
  rfl

theorem Reading.foldl_step_of_forall {r : Reading} (h : ∀ c ∈ xs, r.step c = r) :
    xs.foldl step r = r := by
  induction xs with
  | nil => rfl
  | cons c xs ih =>
    rw [List.forall_mem_cons] at h
    rw [List.foldl_cons, h.1, ih h.2]

theorem Reading.foldl_step_value (h : IsUnmarked xs) (tags : List (List Char))
    (current : List Char) : xs.foldl step (value tags current) = value tags current :=
  foldl_step_of_forall fun c hc => step_value (h c hc) tags current

theorem reads_unmarked (h : IsUnmarked xs) : Reads xs [] := by
  intro tags
  rw [List.append_nil]
  exact Reading.foldl_step_of_forall fun c hc => Reading.step_text (h c hc) tags

theorem readsInside_unmarked (h : IsUnmarked xs) : ReadsInside xs xs := by
  intro tags current
  induction xs generalizing current with
  | nil => rw [List.append_nil]; rfl
  | cons c xs ih =>
    rw [IsUnmarked, List.forall_mem_cons] at h
    rw [List.foldl_cons, Reading.step_tag h.1, ih h.2, List.append_assoc, List.singleton_append]

theorem isMark_of_mem_escapeChar {c d : Char} (h : d ∈ escapeChar c) : isMark d = false := by
  rw [escapeChar] at h
  split_ifs at h with hand hless hgreater hdouble hsingle
  · exact (by decide : IsUnmarked "&amp;".toList) d h
  · exact (by decide : IsUnmarked "&lt;".toList) d h
  · exact (by decide : IsUnmarked "&gt;".toList) d h
  · exact (by decide : IsUnmarked "&quot;".toList) d h
  · exact (by decide : IsUnmarked "&#x27;".toList) d h
  · rw [List.mem_singleton.1 h, isMark, beq_eq_false_iff_ne.2 hless, beq_eq_false_iff_ne.2 hgreater,
      beq_eq_false_iff_ne.2 hdouble]
    rfl

theorem isUnmarked_escape (s : String) : IsUnmarked (escape s).toList := by
  intro c hc
  rw [escape, String.toList_ofList, List.mem_flatMap] at hc
  obtain ⟨d, -, hmem⟩ := hc
  exact isMark_of_mem_escapeChar hmem

theorem reads_escape (s : String) : Reads (escape s).toList [] :=
  reads_unmarked (isUnmarked_escape s)

/-! ### Texts in a row -/

theorem reads_nil : Reads [] [] := reads_unmarked (List.forall_mem_nil _)

theorem Reads.flatMap {α : Type} {f : α → List Char} (h : ∀ a, Reads (f a) found) (as : List α) :
    Reads (as.flatMap f) (List.replicate as.length found).flatten := by
  intro tags
  induction as generalizing tags with
  | nil => exact reads_nil tags
  | cons a as ih =>
    rw [List.flatMap_cons, List.foldl_append, h a, ih, List.length_cons, List.replicate_succ,
      List.flatten_cons, List.append_assoc]

theorem Reads.append (hxs : Reads xs found) (hys : Reads ys more) :
    Reads (xs ++ ys) (found ++ more) := by
  intro tags
  rw [List.foldl_append, hxs, hys, List.append_assoc]

theorem ReadsInside.append {shown' : List Char} (hxs : ReadsInside xs shown)
    (hys : ReadsInside ys shown') : ReadsInside (xs ++ ys) (shown ++ shown') := by
  intro tags current
  rw [List.foldl_append, hxs, hys, List.append_assoc]

theorem ReadsInside.tag (h : ReadsInside xs shown) : Reads ('<' :: xs ++ ['>']) [shown] := by
  intro tags
  have hopen : (Reading.text tags).step '<' = .tag tags [] := rfl
  have hclose : (Reading.tag tags shown).step '>' = .text (tags ++ [shown]) := rfl
  rw [List.cons_append, List.foldl_cons, List.foldl_append, hopen, h, List.nil_append,
    List.foldl_cons, List.foldl_nil, hclose]

/-- A value without marks shows the name of its attribute only. -/
theorem readsInside_quoted {name value : List Char} (hname : IsUnmarked name)
    (hvalue : IsUnmarked value) :
    ReadsInside (" ".toList ++ name ++ ("=\"".toList ++ (value ++ "\"".toList)))
      (" ".toList ++ name ++ "=\"\"".toList) := by
  have hstart : ReadsInside " ".toList " ".toList := readsInside_unmarked (by decide)
  have hquoted : ReadsInside ("=\"".toList ++ (value ++ "\"".toList)) "=\"\"".toList := by
    intro tags current
    have hopen : "=\"".toList.foldl Reading.step (.tag tags current) =
        .value tags (current ++ ['='] ++ ['"']) := rfl
    have hclose (shown : List Char) : "\"".toList.foldl Reading.step (.value tags shown) =
        .tag tags (shown ++ ['"']) := rfl
    rw [List.foldl_append, List.foldl_append, hopen, Reading.foldl_step_value hvalue, hclose]
    simp
  exact (hstart.append (readsInside_unmarked hname)).append hquoted

/-- An attribute shows its name, whatever its value is. -/
theorem readsInside_attr (name value : String) (hname : IsUnmarked name.toList) :
    ReadsInside (attr name value).toList (" ".toList ++ name.toList ++ "=\"\"".toList) := by
  have hquoted := readsInside_quoted hname (isUnmarked_escape value)
  simpa only [attr, String.toList_append, List.append_assoc] using hquoted

/-! ### White space at the ends -/

theorem isMark_of_isSpace {c : Char} (h : isSpace c = true) : isMark c = false := by
  by_contra hmark
  rw [Bool.not_eq_false, isMark, Bool.or_eq_true, Bool.or_eq_true, beq_iff_eq, beq_iff_eq,
    beq_iff_eq] at hmark
  revert h
  rcases hmark with (rfl | rfl) | rfl <;> decide

theorem Reads.of_cons {c : Char} (hc : isMark c = false) (h : Reads (c :: xs) found) :
    Reads xs found := by
  intro tags
  have hall := h tags
  rwa [List.foldl_cons, Reading.step_text hc] at hall

/-- A character without meaning for the reading only leads to the text from the text. -/
theorem Reads.of_concat {c : Char} (hc : isMark c = false) (h : Reads (xs ++ [c]) found) :
    Reads xs found := by
  intro tags
  have hall := h tags
  rw [List.foldl_append, List.foldl_cons, List.foldl_nil] at hall
  cases hplace : xs.foldl Reading.step (.text tags) with
  | text read => rwa [hplace, Reading.step_text hc] at hall
  | tag read current =>
    rw [hplace, Reading.step_tag hc] at hall
    cases hall
  | value read current =>
    rw [hplace, Reading.step_value hc] at hall
    cases hall
  | broken =>
    rw [hplace] at hall
    cases hall

theorem Reads.trim (h : Reads xs found) : Reads (trim xs) found := by
  have hstart (cs : List Char) (hcs : Reads cs found) : Reads (trimStart cs) found := by
    rw [trimStart]
    induction cs with
    | nil => exact hcs
    | cons c cs ih =>
      by_cases hc : isSpace c = true
      · rw [List.dropWhile_cons_of_pos hc]
        exact ih (hcs.of_cons (isMark_of_isSpace hc))
      · rwa [List.dropWhile_cons_of_neg hc]
  have hend (cs : List Char) (hcs : Reads cs found) : Reads (trimEnd cs) found := by
    rw [trimEnd, dropEndWhile]
    induction cs using List.reverseRecOn with
    | nil => exact hcs
    | append_singleton cs c ih =>
      rw [List.reverse_append, List.reverse_singleton, List.singleton_append]
      by_cases hc : isSpace c = true
      · rw [List.dropWhile_cons_of_pos hc]
        exact ih (hcs.of_concat (isMark_of_isSpace hc))
      · rw [List.dropWhile_cons_of_neg hc, List.reverse_cons, List.reverse_reverse]
        exact hcs
  exact hend _ (hstart xs h)

/-! ### All marks are read -/

/-- The marks of tags: the brackets around each, and the quotes in it. -/
def marksOf (tags : List (List Char)) : List Char :=
  tags.flatMap fun tag => '<' :: tag.filter isMark ++ ['>']

namespace Reading

def marks? : Reading → Option (List Char)
  | text tags => some (marksOf tags)
  | tag tags current => some (marksOf tags ++ '<' :: current.filter isMark)
  | value tags current => some (marksOf tags ++ '<' :: current.filter isMark)
  | broken => none

theorem marks?_step {r : Reading} {c : Char} {marks : List Char}
    (h : (r.step c).marks? = some marks) :
    ∃ before, r.marks? = some before ∧ marks = before ++ [c].filter isMark := by
  by_cases hc : isMark c = true
  · have hcases : c = '<' ∨ c = '>' ∨ c = '"' := by
      simpa [isMark, or_assoc] using hc
    cases r with
    | text tags =>
      rcases hcases with rfl | rfl | rfl
      · exact ⟨_, rfl, (Option.some.inj h).symm⟩
      · cases h
      · cases h
    | tag tags current =>
      rcases hcases with rfl | rfl | rfl
      · cases h
      · refine ⟨_, rfl, (Option.some.inj h).symm.trans ?_⟩
        simp [marksOf, isMark]
      · refine ⟨_, rfl, (Option.some.inj h).symm.trans ?_⟩
        simp [isMark]
    | value tags current =>
      rcases hcases with rfl | rfl | rfl
      · cases h
      · cases h
      · refine ⟨_, rfl, (Option.some.inj h).symm.trans ?_⟩
        simp [isMark]
    | broken => cases h
  · rw [Bool.not_eq_true] at hc
    have hnone : [c].filter isMark = [] := by rw [List.filter_singleton, hc]; rfl
    have hsame : r.marks? = some marks := by
      cases r with
      | text tags => rwa [step_text hc] at h
      | tag tags current =>
        rwa [step_tag hc, marks?, List.filter_append, hnone, List.append_nil] at h
      | value tags current => rwa [step_value hc] at h
      | broken => cases h
    exact ⟨marks, hsame, by rw [hnone, List.append_nil]⟩

theorem marks?_foldl {r : Reading} {cs : List Char} {marks : List Char}
    (h : (cs.foldl step r).marks? = some marks) :
    ∃ before, r.marks? = some before ∧ marks = before ++ cs.filter isMark := by
  induction cs generalizing r with
  | nil => exact ⟨marks, h, (List.append_nil _).symm⟩
  | cons c cs ih =>
    obtain ⟨middle, hmiddle, rfl⟩ := ih h
    obtain ⟨before, hbefore, rfl⟩ := marks?_step hmiddle
    refine ⟨before, hbefore, ?_⟩
    rw [List.append_assoc, ← List.filter_append, List.singleton_append]

end Reading

/-- **Every mark of a text is one of its tags'.** -/
theorem filter_isMark_of_tags? {tags : List (List Char)} (h : tags? xs = some tags) :
    xs.filter isMark = marksOf tags := by
  rw [tags?] at h
  split at h
  · next read hread =>
    have hmarks : (xs.foldl Reading.step (.text [])).marks? = some (marksOf tags) := by
      rw [hread, Option.some.inj h]
      rfl
    obtain ⟨before, hbefore, hall⟩ := Reading.marks?_foldl hmarks
    obtain rfl : [] = before := Option.some.inj hbefore
    exact hall.symm
  · cases h

end DiagramDoc.Html
