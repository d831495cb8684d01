import DiagramDoc.Proofs.Document.Contents
import DiagramDoc.Proofs.Document.Nesting
import DiagramDoc.Proofs.Html.Entities

/-! # Images

The content of an image is its description: the plain text of the content is collected, and at the
end of the image one tag is written that has the text as a value. There is room for one description
only. An image in the content of another takes the place of the outer one, and its end leaves
nothing behind to collect for, so of the outer image neither its tag nor the text in front of the
inner one is written, and what follows is written as if it were not in an image.
-/

namespace DiagramDoc

open Html

/-! ### Inline content -/

namespace Event

def isImage : Event → Bool
  | enter (.image _ _) => true
  | _ => false

/-- An inline event that is neither the start nor the end of an element. -/
def isAtom : Event → Bool
  | text _ | code _ | html _ | inlineHtml _ | footnoteReference _ | inlineMath _ | displayMath _
  | softBreak | hardBreak => true
  | _ => false

end Event

/-- Inline content: its elements are nested, and there may be images in images. -/
inductive IsInline : List Event → Prop
  | nil : IsInline []
  | append {events more : List Event} (h : IsInline events) (hmore : IsInline more) :
      IsInline (events ++ more)
  | atom {event : Event} (hatom : event.isAtom = true) : IsInline [event]
  | span {tag : Tag} {events : List Event} (hspan : tag.isSpan = true) (h : IsInline events) :
      IsInline (enclose tag events)
  | image {url title : String} {events : List Event} (h : IsInline events) :
      IsInline (enclose (.image url title) events)

/-- The plain text of inline content. An image in it counts by the text of its own content. -/
def description (events : List Event) : String := String.join (events.map Event.plainText)

variable {events more : List Event}

theorem description_append (events more : List Event) :
    description (events ++ more) = description events ++ description more := by
  rw [description, List.map_append, String.join_append, description, description]

@[simp]
theorem description_enclose (tag : Tag) (events : List Event) :
    description (enclose tag events) = description events := by
  rw [enclose, description_append, description_append]
  simp [description, Event.plainText]

/-- What stands from the first image on. -/
def fromImage (events : List Event) : List Event := events.dropWhile (!·.isImage)

theorem fromImage_cons (event : Event) (events : List Event) :
    fromImage (event :: events) = if event.isImage then event :: events else fromImage events := by
  rw [fromImage, List.dropWhile_cons]
  cases event.isImage <;> rfl

theorem fromImage_append (events more : List Event) :
    fromImage (events ++ more) =
      if events.any Event.isImage then fromImage events ++ more else fromImage more := by
  induction events with
  | nil => rfl
  | cons event events ih =>
    rw [List.cons_append, fromImage_cons, fromImage_cons, ih, List.any_cons]
    cases event.isImage <;> rfl

theorem any_isImage_enclose (tag : Tag) (events : List Event) :
    (enclose tag events).any Event.isImage =
      (Event.isImage (.enter tag) || events.any Event.isImage) := by
  rw [enclose, List.any_append, List.any_append]
  simp [Event.isImage]

theorem isImage_enter_of_isSpan {tag : Tag} (hspan : tag.isSpan = true) :
    Event.isImage (.enter tag) = false := by
  cases tag with
  | image url title => cases hspan
  | _ => rfl

/-! ### The text that is collected -/

namespace Capture

theorem append_append (c : Capture) (s t : String) : (c.append s).append t = c.append (s ++ t) := by
  cases c with
  | nothing => rfl
  | code info source => simp only [append, String.append_assoc]
  | image url title alt => simp only [append, String.append_assoc]

theorem next_of_isAtom {event : Event} (hatom : event.isAtom = true) (c : Capture) :
    c.next event = c.append event.plainText := by
  cases event with
  | enter tag | leave tag | rule | taskMarker checked => cases hatom
  | _ => rfl

theorem next_of_isSpan {tag : Tag} (hspan : tag.isSpan = true) (c : Capture) :
    c.next (.enter tag) = c ∧ c.next (.leave tag.toEnd) = c := by
  cases tag with
  | emphasis | strong | strikethrough | superscript | subscript | link url title =>
    exact ⟨c.append_nil, c.append_nil⟩
  | _ => cases hspan

/-- **Behind an image nothing is collected**; any other inline content adds its plain text to what
is. -/
theorem foldl_next (h : IsInline events) (c : Capture) :
    events.foldl next c =
      if events.any Event.isImage then nothing else c.append (description events) := by
  induction h generalizing c with
  | nil => exact c.append_nil.symm
  | @append events more _ _ ih ihmore =>
    rw [List.foldl_append, ih, ihmore, List.any_append, description_append]
    cases events.any Event.isImage <;> cases more.any Event.isImage
    · exact c.append_append _ _
    all_goals rfl
  | @atom event hatom =>
    have himage : event.isImage = false := by
      cases event with
      | enter tag => cases hatom
      | _ => rfl
    simp [himage, next_of_isAtom hatom, description]
  | @span tag events hspan _ ih =>
    rw [any_isImage_enclose, isImage_enter_of_isSpan hspan, description_enclose, enclose,
      List.foldl_append, List.foldl_append]
    have hstart : List.foldl next c [.enter tag] = c := (next_of_isSpan hspan c).1
    have hend (c : Capture) : List.foldl next c [.leave tag.toEnd] = c := (next_of_isSpan hspan c).2
    rw [hstart, ih, hend, Bool.false_or]
  | @image url title events _ ih =>
    rw [any_isImage_enclose, enclose, List.foldl_append]
    rfl

end Capture

/-! ### The tag of an image -/

/-- What the tag of an image says. -/
structure Picture where
  url : String
  title : Option String
  alt : String
  deriving DecidableEq, Repr

/-- The value of an attribute that may be there, and what is behind it. -/
def readOptional (name : String) (cs : List Char) : Option String × List Char :=
  match readAttr? name cs with
  | some (value, cs) => (some value, cs)
  | none => (none, cs)

/-- Reads the tag of an image. -/
def readPicture? (cs : List Char) : Option Picture := do
  let cs ← skip? "<img" cs
  let (url, cs) ← readAttr? "src" cs
  let (title, cs) := readOptional "title" cs
  let (alt, cs) ← readAttr? "alt" cs
  if cs = " loading=\"lazy\">".toList then some ⟨url, title, alt⟩ else none

theorem readOptional_title (title alt : String) (cs : List Char) :
    readOptional "title" ((if title = "" then "" else attr "title" title).toList ++
      ((attr "alt" alt).toList ++ cs)) =
        (if title = "" then none else some title, (attr "alt" alt).toList ++ cs) := by
  by_cases htitle : title = ""
  · have halt : (attr "alt" alt).toList ++ cs =
        ' ' :: 'a' :: ("lt=\"".toList ++ (escape alt).toList ++ "\"".toList ++ cs) := by
      simp [attr]
    have hnone : readAttr? "title" ((attr "alt" alt).toList ++ cs) = none := by
      rw [halt]
      rfl
    rw [if_pos htitle, if_pos htitle, String.toList_empty, List.nil_append, readOptional, hnone]
  · rw [if_neg htitle, if_neg htitle, readOptional, readAttr?_attr]

theorem readPicture?_imageTag (url title alt : String) :
    readPicture? (Writer.imageTag url title alt).toList =
      some ⟨url, if title = "" then none else some title, alt⟩ := by
  have htag : (Writer.imageTag url title alt).toList = "<img".toList ++ ((attr "src" url).toList ++
      ((if title = "" then "" else attr "title" title).toList ++
        ((attr "alt" alt).toList ++ " loading=\"lazy\">".toList))) := by
    simp only [Writer.imageTag, String.toList_append, List.append_assoc]
  rw [htag, readPicture?]
  refine Option.bind_eq_some_iff.2 ⟨_, skip?_append _ _, ?_⟩
  refine Option.bind_eq_some_iff.2 ⟨_, readAttr?_attr _ _ _, ?_⟩
  dsimp only
  rw [readOptional_title]
  refine Option.bind_eq_some_iff.2 ⟨_, readAttr?_attr _ _ _, ?_⟩
  exact if_pos rfl

/-! ### What is written -/

namespace Writer

variable {σ : Type} (s : WriterSettings σ) (w : Writer σ)

theorem run_append (events more : List Event) :
    run s w (events ++ more) =
      ((run s w events).1 ++ (run s (run s w events).2 more).1,
        (run s (run s w events).2 more).2) := by
  induction events generalizing w with
  | nil => rfl
  | cons event events ih => rw [List.cons_append, run_cons, run_cons, ih, List.append_assoc]

theorem run_singleton (event : Event) : run s w [event] = step s w event := by
  rw [run_cons, run, List.append_nil]

theorem capture_run (events : List Event) :
    (run s w events).2.capture = events.foldl Capture.next w.capture := by
  induction events generalizing w with
  | nil => rfl
  | cons event events ih => rw [run_cons, ih, capture_step, List.foldl_cons]

variable {url title alt : String}

theorem step_image_of_isAtom {event : Event} (hatom : event.isAtom = true) :
    step s { w with capture := .image url title alt } event =
      ([], { w with capture := .image url title (alt ++ event.plainText) }) := by
  cases event with
  | enter tag | leave tag | rule | taskMarker checked => cases hatom
  | text _ | code _ | softBreak | hardBreak => rfl
  | html _ | inlineHtml _ => rfl
  | footnoteReference _ | inlineMath _ | displayMath _ =>
    simp only [step, Event.plainText, String.append_empty]

theorem step_image_of_isSpan {tag : Tag} (hspan : tag.isSpan = true) :
    step s { w with capture := .image url title alt } (.enter tag) =
        ([], { w with capture := .image url title alt }) ∧
      step s { w with capture := .image url title alt } (.leave tag.toEnd) =
        ([], { w with capture := .image url title alt }) := by
  cases tag with
  | emphasis | strong | strikethrough | superscript | subscript | link url title =>
    simp [step, enter, leave, inline, Tag.toEnd]
  | _ => cases hspan

/-- Content without images is kept back as the description. -/
theorem run_image_of_any_eq_false (url title alt : String) (h : IsInline events)
    (hany : events.any Event.isImage = false) :
    run s { w with capture := .image url title alt } events =
      ([], { w with capture := .image url title (alt ++ description events) }) := by
  induction h generalizing alt with
  | nil =>
    rw [description, List.map_nil, String.join_nil, String.append_empty]
    rfl
  | @append events more _ _ ih ihmore =>
    rw [List.any_append, Bool.or_eq_false_iff] at hany
    rw [run_append, ih _ hany.1, ihmore _ hany.2, description_append, String.append_assoc]
    rfl
  | atom hatom =>
    rw [run_singleton, step_image_of_isAtom s w hatom, description, List.map_singleton,
      String.join_cons, String.join_nil, String.append_empty]
  | @span tag events hspan _ ih =>
    rw [any_isImage_enclose, Bool.or_eq_false_iff] at hany
    rw [enclose, run_append, run_append, run_singleton, run_singleton,
      (step_image_of_isSpan s w hspan).1, ih _ hany.2, (step_image_of_isSpan s w hspan).2,
      ← enclose, description_enclose]
    rfl
  | image _ _ =>
    rw [any_isImage_enclose] at hany
    cases hany

/-- From an inner image on, content is written as if it were not in an image. -/
theorem run_image_of_any_eq_true (url title alt : String) (h : IsInline events)
    (hany : events.any Event.isImage = true) :
    run s { w with capture := .image url title alt } events =
      run s { w with capture := .nothing } (fromImage events) := by
  induction h generalizing alt with
  | nil => cases hany
  | @append events more hevents _ ih ihmore =>
    rw [run_append, fromImage_append]
    cases hfirst : events.any Event.isImage with
    | true => rw [ih _ hfirst, if_pos rfl, run_append]
    | false =>
      rw [List.any_append, hfirst, Bool.false_or] at hany
      rw [run_image_of_any_eq_false s w url title alt hevents hfirst, ihmore _ hany,
        if_neg Bool.false_ne_true]
      rfl
  | @atom event hatom =>
    cases event with
    | enter tag => cases hatom
    | _ => cases hany
  | @span tag events hspan _ ih =>
    rw [any_isImage_enclose, isImage_enter_of_isSpan hspan, Bool.false_or] at hany
    have hfrom : fromImage (enclose tag events) = fromImage events ++ [.leave tag.toEnd] := by
      rw [enclose, List.append_assoc, fromImage_append, List.any_cons,
        isImage_enter_of_isSpan hspan, fromImage_append, hany]
      rfl
    rw [hfrom, run_append, enclose, List.append_assoc, run_append, run_singleton,
      (step_image_of_isSpan s w hspan).1, run_append, ih _ hany]
    rfl
  | image _ _ =>
    -- the start of the inner image forgets the outer one
    rfl

/-- An image is written as one tag and nothing else. The tag says where the image is, what its title
is, if it has one, and the plain text of its content; in an open heading it goes to the markup and
the text to the text of the heading. -/
def Depicts (url title : String) (events : List Event) : Prop :=
  ∃ html, readPicture? html.toList =
      some ⟨url, if title = "" then none else some title, description events⟩ ∧
    run s w (enclose (.image url title) events) =
      if w.outline.isOpen then
        ([], { w with outline := w.outline.push (description events) html })
      else ([.markup html], w)

variable {w}

theorem with_capture_nothing (hcapture : w.capture = .nothing) :
    { w with capture := .nothing } = w := by
  rw [← hcapture]

/-- An image without images in it is written by its tag. -/
theorem depicts_of_any_eq_false (hcapture : w.capture = .nothing) (h : IsInline events)
    (hany : events.any Event.isImage = false) (url title : String) :
    Depicts s w url title events := by
  refine ⟨imageTag url title (description events), readPicture?_imageTag _ _ _, ?_⟩
  have hleave : step s { w with capture := .image url title (description events) } (.leave .image) =
      w.inline (description events) (imageTag url title (description events)) := by
    conv_rhs => rw [← with_capture_nothing hcapture]
    rfl
  have hrun : run s w (enclose (.image url title) events) =
      w.inline (description events) (imageTag url title (description events)) := by
    have hcontent := run_image_of_any_eq_false s w url title "" h hany
    rw [String.empty_append] at hcontent
    rw [enclose, List.append_assoc, List.singleton_append, run_cons, step, enter, run_append,
      hcontent, run_singleton]
    exact hleave
  rw [hrun, inline, hcapture]
  rfl

/-- **An image with an image in it is not written**, and neither is the text in front of the inner
image. -/
theorem run_enclose_image (hcapture : w.capture = .nothing) (h : IsInline events)
    (hany : events.any Event.isImage = true) (url title : String) :
    run s w (enclose (.image url title) events) = run s w (fromImage events) := by
  have hcontent := run_image_of_any_eq_true s w url title "" h hany
  have hbehind : (run s w (fromImage events)).2.capture = .nothing := by
    rw [← with_capture_nothing hcapture, ← hcontent, capture_run, Capture.foldl_next h, hany]
    rfl
  have hleave : step s (run s w (fromImage events)).2 (.leave .image) =
      ([], (run s w (fromImage events)).2) := by
    rw [step, leave, hbehind, with_capture_nothing hbehind]
  rw [enclose, List.append_assoc, List.singleton_append, run_cons, step, enter, run_append,
    hcontent, with_capture_nothing hcapture, run_singleton, Tag.toEnd, hleave, List.append_nil,
    List.nil_append]

/-- Images with different addresses are not written in the same way. -/
theorem eq_of_depicts {url url' title title' : String} (h : Depicts s w url title events)
    (h' : Depicts s w url' title' events)
    (hrun : run s w (enclose (.image url title) events) =
      run s w (enclose (.image url' title') events)) : url = url' := by
  obtain ⟨html, hread, hhtml⟩ := h
  obtain ⟨html', hread', hhtml'⟩ := h'
  have heq : html = html' := by
    rw [hhtml, hhtml'] at hrun
    cases hopen : w.outline.current with
    | none =>
      have hclosed : w.outline.isOpen = false := by rw [Outline.isOpen, hopen]; rfl
      simpa [hclosed] using hrun
    | some heading =>
      have hheading : w.outline.isOpen = true := by rw [Outline.isOpen, hopen]; rfl
      simpa [hheading, Outline.push, hopen] using hrun
  rw [heq, hread'] at hread
  exact (congrArg Picture.url (Option.some.inj hread)).symm

end Writer

/-- **The description of an image is plain text exactly if there is no image in it.** Then the image
is written by one tag with the text of its content, also in an open heading. Otherwise nothing of
the image is written, neither its tag nor the text in front of the first image in it, and what is
from there on is written as if it were not in an image. -/
theorem Writer.depicts_iff {σ : Type} (s : WriterSettings σ) {w : Writer σ} {events : List Event}
    (hcapture : w.capture = .nothing) (h : IsInline events) :
    ((∀ url title, w.Depicts s url title events) ↔ events.any Event.isImage = false) ∧
      (events.any Event.isImage = true → ∀ url title,
        run s w (enclose (.image url title) events) = run s w (fromImage events)) := by
  refine ⟨⟨fun hdepicts => ?_, depicts_of_any_eq_false s hcapture h⟩,
    run_enclose_image s hcapture h⟩
  by_contra hany
  have hlost := run_enclose_image s hcapture h (Bool.eq_true_of_not_eq_false hany)
  have hsame : "a" = "b" := eq_of_depicts s (hdepicts "a" "") (hdepicts "b" "")
    ((hlost "a" "").trans (hlost "b" "").symm)
  exact absurd hsame (by decide)

/-- Text, emphasized code and a line break. -/
def spannedContent : List Event :=
  [.text "a & "] ++ enclose .emphasis [.code "b"] ++ [.hardBreak]

/-- Text around an image. -/
def nestedContent : List Event :=
  [.text "a "] ++ enclose (.image "v" "") [.text "b"] ++ [.text " c"]

theorem isInline_spannedContent : IsInline spannedContent :=
  ((IsInline.atom rfl).append (.span rfl (.atom rfl))).append (.atom rfl)

theorem isInline_nestedContent : IsInline nestedContent :=
  ((IsInline.atom rfl).append (.image (.atom rfl))).append (.atom rfl)

theorem Writer.depicts_spannedContent :
    (Writer.start false ()).capture = .nothing ∧ IsInline spannedContent ∧
      IsInline nestedContent ∧
      (Writer.start false ()).Depicts ⟨false, none⟩ "u" "t" spannedContent ∧
      run ⟨false, none⟩ (Writer.start false ()) (enclose (.image "u" "t") nestedContent) =
        run ⟨false, none⟩ (Writer.start false ())
          (enclose (.image "v" "") [.text "b"] ++ [.text " c"]) :=
  ⟨rfl, isInline_spannedContent, isInline_nestedContent,
    (depicts_iff ⟨false, none⟩ rfl isInline_spannedContent).1.2 rfl "u" "t",
    (depicts_iff ⟨false, none⟩ rfl isInline_nestedContent).2 rfl "u" "t"⟩

/-- Of an image with an image between two words, the inner image and the second word are written. -/
theorem Writer.not_depicts_nestedContent :
    IsInline nestedContent ∧ description nestedContent = "a b c" ∧
      concatHtml (run ⟨false, none⟩ (Writer.start false ())
        (enclose (.image "u" "") nestedContent)).1 =
          "<img src=\"v\" alt=\"b\" loading=\"lazy\"> c" ∧
      ¬ (Writer.start false ()).Depicts ⟨false, none⟩ "u" "" nestedContent := by
  refine ⟨isInline_nestedContent, by decide +kernel, by decide +kernel, ?_⟩
  rintro ⟨html, -, hrun⟩
  have hone : 2 = 1 := congrArg (fun written => written.1.length) hrun
  exact absurd hone (by decide)

end DiagramDoc
