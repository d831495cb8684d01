import DiagramDoc.Proofs.Document.Skeleton

/-! # Documents of one shape

The shape of an event is what is left of it without its texts; of a title it keeps whether there is
one. Documents of the same shape have the same tags, and each mark in them belongs to one of these
tags, so no text can open a tag, end one, or leave an attribute value. The events need not be
balanced.
-/

namespace DiagramDoc

open Html

def titleShape (title : String) : String := if title = "" then "" else "title"

def Tag.shape : Tag → Tag
  | fencedCode _ => fencedCode ""
  | link _ title => link "" (titleShape title)
  | image _ title => image "" (titleShape title)
  | tag => tag

/-- The event with all its texts blank. -/
def Event.shape : Event → Event
  | enter tag => enter tag.shape
  | text _ => text ""
  | code _ => code ""
  | html _ => html ""
  | inlineHtml _ => inlineHtml ""
  | footnoteReference _ => footnoteReference ""
  | inlineMath _ => inlineMath ""
  | displayMath _ => displayMath ""
  | event => event

theorem titleShape_ne_nil (title : String) :
    decide (titleShape title ≠ "") = decide (title ≠ "") := by
  rw [titleShape]
  by_cases htitle : title = ""
  · rw [if_pos htitle, htitle]
  · rw [if_neg htitle, decide_eq_true htitle]
    rfl

theorem Event.isRaw_shape (event : Event) : event.shape.isRaw = event.isRaw := by
  cases event <;> rfl

namespace TagWriter

theorem enter_shape (w : TagWriter) (tag : Tag) : w.enter tag.shape = w.enter tag := by
  cases tag with
  | link url title => rw [Tag.shape, enter, enter, titleShape_ne_nil]
  | image url title => rw [Tag.shape, enter, enter, titleShape_ne_nil]
  | _ => rfl

theorem run_shape (breaks : Bool) (w : TagWriter) (events : List Event) :
    w.run breaks (events.map Event.shape) = w.run breaks events := by
  have hstep (w : TagWriter) (event : Event) : w.step breaks event.shape = w.step breaks event := by
    cases event with
    | enter tag => exact w.enter_shape tag
    | _ => rfl
  induction events generalizing w with
  | nil => rfl
  | cons event events ih =>
    rw [List.map_cons, run_cons, run_cons, hstep, ih]

end TagWriter

theorem skeleton_eq_of_shape {events events' : List Event} (breaks : Bool)
    (h : events.map Event.shape = events'.map Event.shape) :
    skeleton breaks events = skeleton breaks events' := by
  rw [skeleton, skeleton, ← TagWriter.run_shape, h, TagWriter.run_shape]

theorem isRaw_of_shape {events events' : List Event}
    (h : events.map Event.shape = events'.map Event.shape)
    (hraw : ∀ event ∈ events, event.isRaw = false) : ∀ event ∈ events', event.isRaw = false := by
  have hall (es : List Event) : (∀ event ∈ es, event.isRaw = false) ↔
      ∀ shape ∈ es.map Event.shape, shape.isRaw = false := by
    rw [List.forall_mem_map]
    simp only [Event.isRaw_shape]
  rw [hall, ← h, ← hall]
  exact hraw

/-- **Texts do not write markup.** Documents of one shape are read as the same tags with the same
attributes, and they have no other marks. -/
theorem exists_tags_renderEvents_of_shape {σ τ : Type} (breaks extractTitle extractTitle' : Bool)
    (s : σ) (s' : τ) {events events' : List Event}
    (hshape : events.map Event.shape = events'.map Event.shape)
    (hraw : ∀ event ∈ events, event.isRaw = false) :
    ∃ tags,
      tags? (renderEvents breaks extractTitle none s events).html.toList = some tags ∧
      tags? (renderEvents breaks extractTitle' none s' events').html.toList = some tags ∧
      (renderEvents breaks extractTitle none s events).html.toList.filter isMark =
        marksOf tags ∧
      (renderEvents breaks extractTitle' none s' events').html.toList.filter isMark =
        marksOf tags := by
  have hfirst := tags?_renderEvents breaks extractTitle s hraw
  have hsecond := tags?_renderEvents breaks extractTitle' s' (isRaw_of_shape hshape hraw)
  rw [← skeleton_eq_of_shape breaks hshape] at hsecond
  exact ⟨skeleton breaks events, hfirst, hsecond, filter_isMark_of_tags? hfirst,
    filter_isMark_of_tags? hsecond⟩

/-- Events that are not balanced, with one text in every place. -/
def everywhere (text : String) : List Event := [
  .enter (.heading 2), .text text, .enter (.link text text), .code text, .enter (.image text ""),
  .text text, .leave .image, .leave .heading, .softBreak, .leave .link, .enter (.fencedCode text),
  .text text, .enter (.image text text), .leave .codeBlock, .leave .item, .inlineMath text,
  .enter (.fencedCode text), .text text, .leave .codeBlock, .enter .tableCell, .text text]

theorem exists_tags_renderEvents_everywhere :
    (everywhere "\"><script x='").map Event.shape = (everywhere "text").map Event.shape ∧
      (∀ event ∈ everywhere "\"><script x='", event.isRaw = false) ∧
      ∃ tags,
        tags? (renderEvents true true none () (everywhere "\"><script x='")).html.toList =
          some tags ∧
        tags? (renderEvents true false none () (everywhere "text")).html.toList = some tags ∧
        (renderEvents true true none () (everywhere "\"><script x='")).html.toList.filter isMark =
          marksOf tags ∧
        (renderEvents true false none () (everywhere "text")).html.toList.filter isMark =
          marksOf tags := by
  have hshape : (everywhere "\"><script x='").map Event.shape =
      (everywhere "text").map Event.shape := by decide
  have hraw : ∀ event ∈ everywhere "\"><script x='", event.isRaw = false := by decide
  exact ⟨hshape, hraw, exists_tags_renderEvents_of_shape true true false () () hshape hraw⟩

end DiagramDoc
