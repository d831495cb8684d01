import DiagramDoc.Proofs.Diagram.Flow.Edits
import DiagramDoc.Proofs.Diagram.Sequence.Rewriting

/-! # Texts in quotes

A repair puts the text of a message or a label in quotes if it has a character that its diagram
would stop at, unless it is in quotes already. What counts as that is a quote at each end, and
nothing is asked of the characters between them: so the texts that are not one string behind a
repair are those that have quotes at both ends, and quotes inside or, for a label, blanks around.
-/

namespace DiagramDoc

open Text

def IsBetweenQuotes (cs : List Char) : Prop := ∃ inner, cs = '"' :: inner ++ ['"']

/-- A quote, a text without quotes, and a quote. -/
def IsOneString (cs : List Char) : Prop := ∃ inner, '"' ∉ inner ∧ cs = '"' :: inner ++ ['"']

instance (cs : List Char) : Decidable (IsBetweenQuotes cs) := decidable_of_iff _ isEnclosed_iff

theorem isOneString_iff {cs : List Char} :
    IsOneString cs ↔ IsBetweenQuotes cs ∧ '"' ∉ (cs.drop 1).dropLast := by
  constructor
  · rintro ⟨inner, hinner, rfl⟩
    exact ⟨⟨inner, rfl⟩, by simpa using hinner⟩
  · rintro ⟨⟨inner, rfl⟩, hinner⟩
    exact ⟨inner, by simpa using hinner, rfl⟩

instance (cs : List Char) : Decidable (IsOneString cs) := decidable_of_iff' _ isOneString_iff

/-! ### Messages -/

namespace Sequence

def messageText? (line : List Char) : Option (List Char) :=
  (Message.parse? line).map fun m => (Body.ofChars m.body).text

theorem messageText?_text {l : Line} (h : l.IsShape) :
    messageText? l.text = l.message?.map fun m => (Body.ofChars m.body).text := by
  rw [messageText?, l.message_parse? h]

theorem isQuoted_iff {cs : List Char} : isQuoted cs = true ↔ IsBetweenQuotes cs := isEnclosed_iff

theorem Requotes.isOneString_iff {triggers innerQuote body out : List Char}
    (h : Requotes triggers innerQuote body out) (hquote : '"' ∉ innerQuote)
    (htrigger : ∃ c ∈ (Body.ofChars out).text, c ∈ triggers) :
    IsOneString (Body.ofChars out).text ↔
      (IsBetweenQuotes (Body.ofChars body).text → IsOneString (Body.ofChars body).text) := by
  cases h with
  | @quoted lead text trail hcut hbare =>
    obtain ⟨inner, hinner⟩ : ∃ inner, inner =
      text.flatMap fun c => if c = '"' then innerQuote else [c] := ⟨_, rfl⟩
    have hnone : '"' ∉ inner := hinner ▸ notMem_replaced hquote text
    have hcut' : IsCut [' '] ('"' :: inner ++ ['"']) trail := by
      refine ⟨?_, stops_cons.2 (by decide), ?_, hcut.trail⟩
      · intro c hc
        rw [List.mem_singleton.1 hc]
        rfl
      · intro c hc
        rw [List.getLast?_concat] at hc
        obtain rfl := Option.some.inj hc
        decide
    have hglue : [' ', '"'] ++ inner ++ ['"'] ++ trail =
        [' '] ++ ('"' :: inner ++ ['"']) ++ trail := by simp
    rw [← hinner, hglue, hcut'.text_ofChars, hcut.text_ofChars, ← isQuoted_iff, hbare]
    exact iff_of_true ⟨inner, hnone, rfl⟩ (by simp)
  | @kept lead text trail hcut hkeep =>
    rw [hcut.text_ofChars] at htrigger ⊢
    obtain ⟨c, hc, hmem⟩ := htrigger
    have hbetween : IsBetweenQuotes text :=
      isQuoted_iff.1 (hkeep.resolve_right fun hnone => hnone c hc hmem)
    exact ⟨fun hone _ => hone, fun hone => hone hbetween⟩

theorem exists_messageText?_of_repair {reserved : ReservedWords} {source text : List Char} {i : Nat}
    (h : readAt? messageText? (repair reserved source) i = some text)
    (htrigger : ∃ c ∈ text, c ∈ ['(', ')', '{', '}', '[', ']', '<', '>']) :
    ∃ old, readAt? messageText? source i = some old ∧
      (IsOneString text ↔ (IsBetweenQuotes old → IsOneString old)) := by
  rw [readAt?_repair] at h
  obtain ⟨line, hline, htext⟩ := readAt?_eq_some_iff.1 h
  obtain ⟨l, rfl, hl⟩ := Line.exists_isShape line
  rw [Function.comp_apply, repairLine_text reserved hl,
    messageText?_text (Line.IsShape.repair reserved hl)] at htext
  obtain ⟨m, hm, rfl⟩ := Option.map_eq_some_iff.1 htext
  cases l <;> cases hm
  case message m =>
    refine ⟨_, readAt?_eq_some_iff.2 ⟨_, hline, messageText?_text hl⟩, ?_⟩
    exact ((requotes_iff .message).2 rfl).isOneString_iff (by decide) htrigger

end Sequence

/-! ### Labels -/

namespace Flow

theorem Requotes.isOneString_iff {kind : LabelKind} {label label' : List Char}
    (h : Requotes kind label label') (hshape : isShape kind label = false)
    (htrigger : ∀ triggers ∈ kind.triggers?, ∃ c ∈ label, c ∈ triggers) :
    IsOneString label' ↔ (IsBetweenQuotes (trim label) → IsOneString label) := by
  cases h with
  | kept hkeep =>
    have hbetween : IsBetweenQuotes (trim label) := by
      by_contra hbare
      exact hkeep ⟨fun inner heq => hbare ⟨inner, heq⟩, hshape, htrigger⟩
    exact ⟨fun hone _ => hone, fun hone => hone hbetween⟩
  | quoted hmust hbody hinner hquote =>
    refine iff_of_true ⟨_, hquote, rfl⟩ ?_
    rintro ⟨other, heq⟩
    exact absurd heq (hmust.bare other)

end Flow

/-- **What a repair has to quote is one string behind it,** except where the text was between quotes
and was no string before. -/
theorem isOneString_repair_iff (reserved : ReservedWords) (source : List Char) :
    (∀ i text, readAt? Sequence.messageText? (Sequence.repair reserved source) i = some text →
      (∃ c ∈ text, c ∈ ['(', ')', '{', '}', '[', ']', '<', '>']) →
      ∃ old, readAt? Sequence.messageText? source i = some old ∧
        (IsOneString text ↔ (IsBetweenQuotes old → IsOneString old))) ∧
    (hasForeignHeader source = false →
      Flow.Relabels (fun kind label label' => Flow.Requotes kind label label' ∧
        (Flow.isShape kind label = false →
          (∀ triggers ∈ kind.triggers?, ∃ c ∈ label, c ∈ triggers) →
          (IsOneString label' ↔ (IsBetweenQuotes (trim label) → IsOneString label))))
        0 (Flow.labelSpans source) source (Flow.repair source)) := by
  refine ⟨fun i text => Sequence.exists_messageText?_of_repair, fun hforeign => ?_⟩
  have hrepair : Flow.repair source = Flow.requoted source := if_neg (by simp [hforeign])
  rw [hrepair]
  exact (Flow.relabels_requoted source).mono fun kind label label' h => ⟨h, h.isOneString_iff⟩

/-- Two words in quotes of their own, with a trigger between them. -/
theorem not_isOneString_repair_two_words :
    (readAt? Sequence.messageText? (Sequence.repair .standard "A->>B: \"a\" (b) \"c\"".toList) 0 =
        some "\"a\" (b) \"c\"".toList ∧ ¬ IsOneString "\"a\" (b) \"c\"".toList) ∧
      Flow.labelSpans "A[\"a\" / \"b\"]".toList = [⟨.square, 2, 11⟩] ∧
      Flow.isShape .square "\"a\" / \"b\"".toList = false ∧
      Flow.repair "A[\"a\" / \"b\"]".toList = "A[\"a\" / \"b\"]".toList ∧
      ¬ IsOneString "\"a\" / \"b\"".toList := by
  decide +kernel

end DiagramDoc
