import DiagramDoc.Proofs.Html.Tags

/-! # Nested tags

A walk over the tags of a text keeps the names of the elements that are open, the last one first. An
end tag has to name the last one. Elements without content have no end tag and are never open.
-/

namespace DiagramDoc.Html

/-- Elements that have no content and no end tag. -/
def voidNames : List (List Char) := ["br", "hr", "img", "input"].map String.toList

def tagName (tag : List Char) : List Char := tag.takeWhile (· ≠ ' ')

/-- The open elements behind a tag. There are none behind an end tag that does not end the last
open element. -/
def visit? (opened : List (List Char)) : List Char → Option (List (List Char))
  | '/' :: name =>
    match opened with
    | last :: others => if last = name then some others else none
    | [] => none
  | tag => if tagName tag ∈ voidNames then some opened else some (tagName tag :: opened)

/-- Whether every start tag of a text has its own end tag, in the order that makes the elements
nested, and no other tag ends anything. -/
def isNested (cs : List Char) : Bool := (tags? cs).bind (·.foldlM visit? []) == some []

example : isNested "<p>a<br></p><hr>".toList = true := by decide

example : isNested "<p><em></p></em>".toList = false := by decide

/-- Tags that leave the open elements as they are, and touch none of them. -/
def Balanced (tags : List (List Char)) : Prop :=
  ∀ opened, tags.foldlM visit? opened = some opened

variable {tags more : List (List Char)} {start : List Char}

theorem Balanced.isNested {cs : List Char} (h : Balanced tags) (hcs : tags? cs = some tags) :
    isNested cs = true := by
  rw [Html.isNested, hcs, Option.bind_some, h]
  rfl

theorem balanced_nil : Balanced [] := fun _ => rfl

theorem Balanced.append (h : Balanced tags) (hmore : Balanced more) :
    Balanced (tags ++ more) := by
  intro opened
  rw [List.foldlM_append, h, Option.bind_eq_bind, Option.bind_some, hmore]

/-- A start tag of an element with content. -/
def IsStart (tag : List Char) : Prop := tag.head? ≠ some '/' ∧ tagName tag ∉ voidNames

instance (tag : List Char) : Decidable (IsStart tag) :=
  inferInstanceAs (Decidable (_ ∧ _))

theorem visit?_of_head? {tag : List Char} (h : tag.head? ≠ some '/') (opened : List (List Char)) :
    visit? opened tag =
      if tagName tag ∈ voidNames then some opened else some (tagName tag :: opened) := by
  rw [visit?]
  rintro name rfl
  exact h rfl

theorem Balanced.element (h : Balanced tags) (hstart : IsStart start) :
    Balanced ([start] ++ tags ++ ['/' :: tagName start]) := by
  intro opened
  have hopen : visit? opened start = some (tagName start :: opened) := by
    rw [visit?_of_head? hstart.1, if_neg hstart.2]
  have hclose : visit? (tagName start :: opened) ('/' :: tagName start) = some opened := if_pos rfl
  simp only [List.foldlM_append, List.foldlM_cons, List.foldlM_nil, Option.bind_eq_bind,
    Option.bind_some, Option.pure_def, hopen, h (tagName start :: opened), hclose]

theorem balanced_void {tag : List Char} (h : tagName tag ∈ voidNames) : Balanced [tag] := by
  intro opened
  have hhead : tag.head? ≠ some '/' := by
    intro hslash
    obtain ⟨name, rfl⟩ := List.head?_eq_some_iff.1 hslash
    rw [tagName, List.takeWhile_cons_of_pos (by decide)] at h
    simp [voidNames] at h
  rw [List.foldlM_cons, visit?_of_head? hhead, if_pos h]
  rfl

end DiagramDoc.Html
