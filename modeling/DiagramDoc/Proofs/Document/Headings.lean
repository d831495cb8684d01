import DiagramDoc.Proofs.Document.Handler

/-! # Headings in a document

The headings that a writer puts into a document have the anchors of its outline: each heading that
is closed is written at once, and nothing else writes one.
-/

namespace DiagramDoc

open Html Text

def Fragment.heading? : Fragment → Option Heading
  | heading h => some h
  | _ => none

/-- The ids of the headings among fragments, in order. -/
def headingIds (fragments : List Fragment) : List String :=
  (fragments.filterMap Fragment.heading?).map Heading.id

theorem headingIds_append (fragments more : List Fragment) :
    headingIds (fragments ++ more) = headingIds fragments ++ headingIds more := by
  rw [headingIds, List.filterMap_append, List.map_append, headingIds, headingIds]

namespace Writer

variable {σ : Type} (w : Writer σ)

/-- The outline has taken up the headings that are written, and no other. -/
def Heads (written : List Fragment × Writer σ) : Prop :=
  anchors written.2.outline.slugs = anchors w.outline.slugs ++ headingIds written.1

variable {w}

theorem heads_of_slugs {written : List Fragment × Writer σ}
    (hslugs : written.2.outline.slugs = w.outline.slugs) (hids : headingIds written.1 = []) :
    w.Heads written := by
  rw [Heads, hslugs, hids, List.append_nil]

variable (w)

theorem heads_inline (text html : String) : w.Heads (w.inline text html) := by
  rw [inline]
  split
  · exact heads_of_slugs rfl rfl
  · exact heads_of_slugs rfl rfl
  · split <;> exact heads_of_slugs rfl rfl

theorem heads_perform (settings : WriterSettings σ) (a : Action) :
    w.Heads (a.perform settings w) := by
  cases a with
  | inline text html => exact w.heads_inline text html
  | describe alt html => exact heads_inline { w with capture := .nothing } alt html
  | closeHeading =>
    have hids : headingIds (w.outline.close.1.toList.map .heading) =
        w.outline.close.1.toList.map Heading.id := by
      rw [headingIds, List.filterMap_map]
      exact congrArg _ List.filterMap_some
    rw [Action.perform, Heads, hids]
    exact w.outline.close_spec.1
  | finish block =>
    rw [Action.perform, finishCode_eq]
    refine heads_of_slugs rfl ?_
    generalize (offer settings.handler _ _ _).1 = answer
    cases answer <;> rfl
  | silent | write html table | collect capture | openHeading level =>
    exact heads_of_slugs rfl rfl

theorem heads_step (settings : WriterSettings σ) (event : Event) :
    w.Heads (step settings w event) := by
  obtain ⟨a, -, -, hstep⟩ := exists_callsFor settings.breaks (w.withState ()) event
  have haction : step settings w event = a.perform settings w :=
    hstep σ settings.handler w.handlerState
  rw [haction]
  exact w.heads_perform settings a

theorem heads_run (settings : WriterSettings σ) (events : List Event) :
    w.Heads (run settings w events) := by
  induction events generalizing w with
  | nil => exact heads_of_slugs rfl rfl
  | cons event events ih =>
    have hstep := w.heads_step settings event
    have hrest := ih (step settings w event).2
    rw [Heads] at hstep hrest ⊢
    rw [run_cons, headingIds_append, hrest, hstep, List.append_assoc]

end Writer

/-- **The ids of the headings of a document are the anchors of their slugs.** -/
theorem headingIds_run {σ : Type} (settings : WriterSettings σ) (extractTitle : Bool) (s : σ)
    (events : List Event) :
    headingIds (Writer.run settings (.start extractTitle s) events).1 =
      anchors (Writer.run settings (.start extractTitle s) events).2.outline.slugs :=
  ((Writer.start extractTitle s).heads_run settings events).symm

end DiagramDoc
