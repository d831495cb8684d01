import DiagramDoc.Proofs.Document.Skeleton

/-! # The code blocks of a document

The code blocks of a document can be read off its events: each start of a block looks ahead to the
next event that starts or ends the collecting of a text, and if that is the end of a code block,
this is a block of the document. A writer finishes exactly these blocks: the one that it is
collecting, if any, and those that start behind.
-/

namespace DiagramDoc

open Html

/-! ### The code blocks of a document -/

structure CodeBlock where
  info : String
  source : String
  deriving DecidableEq, Repr

namespace Event

/-- The info string of the code block that an event starts. -/
def info? : Event → Option String
  | enter (.fencedCode info) => some info
  | enter .indentedCode => some ""
  | _ => none

/-- The events that start or end the collecting of a text. -/
def isTurn : Event → Bool
  | enter (.fencedCode _) | enter .indentedCode | enter (.image _ _) => true
  | leave .codeBlock | leave .image => true
  | _ => false

/-- The text that an event adds to the text that is collected. -/
def plainText : Event → String
  | text content | code content => content
  | softBreak | hardBreak => " "
  | _ => ""

end Event

/-- The code block that the start of a block and the events behind it make up, if it is finished. -/
def codeBlock? (info : String) (events : List Event) : Option CodeBlock :=
  if (events.dropWhile (!·.isTurn)).head? = some (.leave .codeBlock) then
    some ⟨info, String.join ((events.takeWhile (!·.isTurn)).map Event.plainText)⟩
  else none

/-- The code blocks that events finish, in order. -/
def codeBlocks : List Event → List CodeBlock
  | [] => []
  | event :: rest => (event.info?.bind (codeBlock? · rest)).toList ++ codeBlocks rest

variable {event : Event} {info : String} {events : List Event}

theorem codeBlock?_cons_of_turn (hturn : event.isTurn = true) :
    codeBlock? info (event :: events) =
      if event = .leave .codeBlock then some ⟨info, ""⟩ else none := by
  rw [codeBlock?, List.dropWhile_cons_of_neg (by simp [hturn]),
    List.takeWhile_cons_of_neg (by simp [hturn]), List.head?_cons]
  simp only [Option.some_inj]
  rfl

/-- An event within a block adds its text to the block. -/
theorem codeBlock?_cons (hturn : event.isTurn = false) :
    codeBlock? info (event :: events) =
      (codeBlock? info events).map fun b => ⟨info, event.plainText ++ b.source⟩ := by
  rw [codeBlock?, codeBlock?, List.dropWhile_cons_of_pos (by simp [hturn]),
    List.takeWhile_cons_of_pos (by simp [hturn]), List.map_cons, String.join_cons]
  split <;> rfl

/-- Where a block starts, no other goes on: the start of a block finishes none. -/
theorem codeBlocks_append {start : Event} (hinfo : start.info?.isSome = true)
    (before behind : List Event) :
    codeBlocks (before ++ start :: behind) = codeBlocks before ++ codeBlocks (start :: behind) := by
  have hturn : start.isTurn = true ∧ start ≠ .leave .codeBlock := by
    cases start with
    | enter tag =>
      cases tag with
      | fencedCode info | indentedCode => exact ⟨rfl, nofun⟩
      | _ => cases hinfo
    | _ => cases hinfo
  have hblock (info : String) (events : List Event) :
      codeBlock? info (events ++ start :: behind) = codeBlock? info events := by
    induction events with
    | nil =>
      rw [List.nil_append, codeBlock?_cons_of_turn hturn.1, if_neg hturn.2]
      rfl
    | cons event events ih =>
      rw [List.cons_append]
      cases hevent : event.isTurn with
      | true => rw [codeBlock?_cons_of_turn hevent, codeBlock?_cons_of_turn hevent]
      | false => rw [codeBlock?_cons hevent, codeBlock?_cons hevent, ih]
  induction before with
  | nil => rfl
  | cons event before ih =>
    rw [List.cons_append, codeBlocks, codeBlocks, ih, List.append_assoc]
    simp only [hblock]

/-- A block that holds text events only has their texts, wherever it stands. -/
theorem codeBlocks_fencedCode (before : List Event) (info : String) (texts : List String)
    (behind : List Event) :
    codeBlocks (before ++ .enter (.fencedCode info) ::
        (texts.map Event.text ++ .leave .codeBlock :: behind)) =
      codeBlocks before ++ ⟨info, String.join texts⟩ :: codeBlocks behind := by
  have hskip : codeBlocks (texts.map Event.text ++ .leave .codeBlock :: behind) =
      codeBlocks behind := by
    induction texts with
    | nil => rfl
    | cons text texts ih => exact ih
  have hblock : codeBlock? info (texts.map Event.text ++ .leave .codeBlock :: behind) =
      some ⟨info, String.join texts⟩ := by
    clear hskip
    induction texts with
    | nil => exact codeBlock?_cons_of_turn rfl
    | cons text texts ih =>
      rw [List.map_cons, List.cons_append, codeBlock?_cons rfl, ih, String.join_cons]
      rfl
  rw [codeBlocks_append rfl, codeBlocks, hskip, Event.info?, Option.bind_some, hblock]
  rfl

/-- An image in a block cuts it off. -/
example : codeBlocks [.enter (.fencedCode "a"), .text "x", .enter (.image "u" ""), .leave .image,
    .leave .codeBlock, .enter .indentedCode, .text "y", .leave .codeBlock] = [⟨"", "y"⟩] := by
  decide +kernel

/-! ### Collecting -/

namespace Capture

def append : Capture → String → Capture
  | nothing, _ => nothing
  | code info source, text => code info (source ++ text)
  | image url title alt, text => image url title (alt ++ text)

/-- What is collected behind an event. -/
def next (c : Capture) : Event → Capture
  | .enter (.fencedCode info) => code info ""
  | .enter .indentedCode => code "" ""
  | .enter (.image url title) => image url title ""
  | .leave .codeBlock | .leave .image => nothing
  | event => c.append event.plainText

/-- The code block that an event finishes. -/
def finished? : Capture → Event → Option CodeBlock
  | code info source, .leave .codeBlock => some ⟨info, source⟩
  | _, _ => none

/-- The code block that is being collected, if events finish it. -/
def current? : Capture → List Event → Option CodeBlock
  | code info source, events => (codeBlock? info events).map fun b => ⟨info, source ++ b.source⟩
  | _, _ => none

/-- The code blocks that events finish. -/
def blocks (c : Capture) (events : List Event) : List CodeBlock :=
  (c.current? events).toList ++ codeBlocks events

theorem append_nil (c : Capture) : c.append "" = c := by
  cases c with
  | nothing => rfl
  | code info source => rw [append, String.append_empty]
  | image url title alt => rw [append, String.append_empty]

theorem finished?_eq_some {c : Capture} {block : CodeBlock} (h : c.finished? event = some block) :
    c = code block.info block.source ∧ event = .leave .codeBlock := by
  unfold finished? at h
  split at h
  · obtain rfl := Option.some.inj h
    exact ⟨rfl, rfl⟩
  · cases h

theorem finished?_eq_none (c : Capture) (h : event ≠ .leave .codeBlock) :
    c.finished? event = none := by
  rw [Option.eq_none_iff_forall_ne_some]
  intro block hblock
  exact h (finished?_eq_some hblock).2

/-- Between starts and ends nothing happens to a block but that text is added. -/
theorem cons_of_not_turn (c : Capture) (hturn : event.isTurn = false) :
    event.info? = none ∧ c.finished? event = none ∧ c.next event = c.append event.plainText := by
  have hnone : c.finished? event = none := by
    apply c.finished?_eq_none
    rintro rfl
    cases hturn
  cases event with
  | enter tag =>
    cases tag with
    | fencedCode info | indentedCode | image url title => cases hturn
    | _ => exact ⟨rfl, hnone, rfl⟩
  | leave tag =>
    cases tag with
    | codeBlock | image => cases hturn
    | _ => exact ⟨rfl, hnone, rfl⟩
  | _ => exact ⟨rfl, hnone, rfl⟩

theorem cons_of_turn (c : Capture) (events : List Event) (hturn : event.isTurn = true) :
    c.current? (event :: events) = c.finished? event ∧
      (c.next event).current? events = event.info?.bind (codeBlock? · events) := by
  have hfresh (info : String) : (code info "").current? events = codeBlock? info events := by
    rw [current?, codeBlock?]
    split <;> simp
  constructor
  · cases c with
    | code info source =>
      rw [current?, codeBlock?_cons_of_turn hturn]
      split
      · next heq =>
        rw [heq, Option.map_some, String.append_empty]
        rfl
      · next hne =>
        rw [Option.map_none, finished?]
        exact fun _ _ _ heq => hne heq
    | nothing => rfl
    | image url title alt => rfl
  · cases event with
    | enter tag =>
      cases tag with
      | fencedCode info => exact hfresh info
      | indentedCode => exact hfresh ""
      | image url title => rfl
      | _ => cases hturn
    | leave tag =>
      cases tag with
      | codeBlock | image => rfl
      | _ => cases hturn
    | _ => cases hturn

theorem blocks_cons (c : Capture) (event : Event) (events : List Event) :
    c.blocks (event :: events) = (c.finished? event).toList ++ (c.next event).blocks events := by
  rw [blocks, blocks, codeBlocks]
  cases hturn : event.isTurn with
  | true =>
    obtain ⟨hcurrent, hnext⟩ := c.cons_of_turn events hturn
    rw [hcurrent, hnext]
  | false =>
    obtain ⟨hinfo, hfinished, hnext⟩ := c.cons_of_not_turn hturn
    have hcurrent : c.current? (event :: events) =
        (c.append event.plainText).current? events := by
      cases c with
      | code info source =>
        rw [append, current?, current?, codeBlock?_cons hturn, Option.map_map]
        simp only [Function.comp_def, String.append_assoc]
      | nothing => rfl
      | image url title alt => rfl
    rw [hcurrent, hinfo, hfinished, hnext]
    rfl

end Capture

end DiagramDoc
