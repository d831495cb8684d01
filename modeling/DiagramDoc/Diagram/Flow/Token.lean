import DiagramDoc.Text.White
import DiagramDoc.Unicode.Word

/-! # Tokens of a flowchart

One scan from left to right cuts a flowchart into labels and everything else. Comments, edge texts
between bars and quoted strings are single tokens, so nothing inside them is taken for a label; a
quoted string never contains a bar, so an unbalanced quote inside an edge text cannot hide the
labels behind it. What opens no label is a token of its own, a whole word or a single character.
The scan starts every word at its first character: a token never ends inside a word.
-/

namespace DiagramDoc.Flow

open Text Unicode

inductive LabelKind where
  | subgraph
  | square
  | round
  deriving DecidableEq, Repr

namespace LabelKind

def opening : LabelKind → Char
  | round => '('
  | _ => '['

def closing : LabelKind → Char
  | round => ')'
  | _ => ']'

/-- Whether an unquoted label may hold `c`. A subgraph title may hold an opening bracket; a node's
text may hold neither bracket of its kind. -/
def allows (kind : LabelKind) (c : Char) : Bool :=
  c ≠ kind.closing && (kind = subgraph || c ≠ kind.opening)

end LabelKind

inductive Token where
  | plain (text : List Char)
  | label (kind : LabelKind) (head content : List Char)
  deriving DecidableEq, Repr

namespace Token

def text : Token → List Char
  | plain text => text
  | label kind head content => head ++ [kind.opening] ++ content ++ [kind.closing]

end Token

/-- A quoted label behind its opening bracket, with both quotes, and what follows the closing
bracket, which has to stand right behind the second quote. -/
def takeQuotedLabel? (kind : LabelKind) : List Char → Option (List Char × List Char)
  | '"' :: cs =>
    match cs.dropWhile (· ≠ '"') with
    | _ :: c :: rest =>
      if c = kind.closing then some ('"' :: cs.takeWhile (· ≠ '"') ++ ['"'], rest) else none
    | _ => none
  | _ => none

def takeBareLabel? (kind : LabelKind) (cs : List Char) : Option (List Char × List Char) :=
  match cs.dropWhile kind.allows with
  | c :: rest => if c = kind.closing then some (cs.takeWhile kind.allows, rest) else none
  | [] => none

def takeLabel? (kind : LabelKind) : List Char → Option (List Char × List Char)
  | c :: cs =>
    if c = kind.opening then takeQuotedLabel? kind cs <|> takeBareLabel? kind cs else none
  | [] => none

/-- Names in front of a round bracket that are styling syntax and no nodes. -/
def styleKeywords : List (List Char) :=
  ["fill", "stroke", "color", "class", "click"].map String.toList

/-- The title of a subgraph behind the word `subgraph`: blanks, a name, and a label. -/
def takeTitle? (cs : List Char) : Option (List Char × List Char × List Char) :=
  let gap := cs.takeWhile isBlank
  let cs := cs.dropWhile isBlank
  let name := cs.takeWhile isWord
  if gap = [] ∨ name = [] then none
  else (takeLabel? .subgraph (cs.dropWhile isWord)).map fun (label, rest) =>
    (gap ++ name, label, rest)

def wordToken (word cs : List Char) : Token × List Char :=
  match (if word = "subgraph".toList then takeTitle? cs else none) with
  | some (head, label, rest) => (.label .subgraph (word ++ head) label, rest)
  | none =>
    match takeLabel? .square cs with
    | some (label, rest) => (.label .square word label, rest)
    | none =>
      match takeLabel? .round cs with
      | some (label, rest) =>
        if styleKeywords.contains word then (.plain (word ++ ['('] ++ label ++ [')']), rest)
        else (.label .round word label, rest)
      | none => (.plain word, cs)

/-- A text from `open` to the next `close`, both included, if no other character that `stop`
refuses comes first. -/
def takeEnclosed? (close : Char) (stop : Char → Bool) (cs : List Char) :
    Option (List Char × List Char) :=
  match cs.dropWhile (fun c => !stop c) with
  | c :: rest => if c = close then some (cs.takeWhile (fun c => !stop c) ++ [c], rest) else none
  | [] => none

def firstToken (c : Char) (cs : List Char) : Token × List Char :=
  if c = '%' ∧ cs.head? = some '%' then
    (.plain (c :: cs.takeWhile (· ≠ '\n')), cs.dropWhile (· ≠ '\n'))
  else if c = '|' then
    match takeEnclosed? '|' (fun c => c = '|' || c = '\n') cs with
    | some (text, rest) => (.plain (c :: text), rest)
    | none => (.plain [c], cs)
  else if c = '"' then
    match takeEnclosed? '"' (fun c => c = '"' || c = '\n' || c = '|') cs with
    | some (text, rest) => (.plain (c :: text), rest)
    | none => (.plain [c], cs)
  else if isWord c then wordToken (c :: cs.takeWhile isWord) (cs.dropWhile isWord)
  else (.plain [c], cs)

theorem takeQuotedLabel?_eq {kind : LabelKind} {cs label rest : List Char}
    (h : takeQuotedLabel? kind cs = some (label, rest)) :
    cs = label ++ [kind.closing] ++ rest := by
  unfold takeQuotedLabel? at h
  split at h
  · rename_i cs
    split at h
    · rename_i q c rest' hdrop
      split at h
      · rename_i hc
        obtain ⟨rfl, rfl⟩ := by simpa using h
        have hq : q = '"' := by
          have := List.head?_dropWhile_not (· ≠ '"') cs
          rw [hdrop] at this
          simpa using this
        have hsplit := List.takeWhile_append_dropWhile (p := (· ≠ '"')) (l := cs)
        rw [hdrop] at hsplit
        conv => lhs; rw [← hsplit]
        simp [hq, hc]
      · cases h
    · cases h
  · cases h

theorem takeBareLabel?_eq {kind : LabelKind} {cs label rest : List Char}
    (h : takeBareLabel? kind cs = some (label, rest)) :
    cs = label ++ [kind.closing] ++ rest := by
  unfold takeBareLabel? at h
  split at h
  · rename_i c rest' hdrop
    split at h
    · rename_i hc
      obtain ⟨rfl, rfl⟩ := by simpa using h
      have hsplit := List.takeWhile_append_dropWhile (p := kind.allows) (l := cs)
      rw [hdrop] at hsplit
      conv => lhs; rw [← hsplit]
      simp [hc]
    · cases h
  · cases h

theorem takeLabel?_eq {kind : LabelKind} {cs label rest : List Char}
    (h : takeLabel? kind cs = some (label, rest)) :
    cs = [kind.opening] ++ label ++ [kind.closing] ++ rest := by
  cases cs with
  | nil => simp [takeLabel?] at h
  | cons c cs =>
    simp only [takeLabel?] at h
    split at h
    · rename_i hc
      rcases Option.or_eq_some_iff.1 (by simpa using h) with h | ⟨_, h⟩
      · simp [hc, takeQuotedLabel?_eq h]
      · simp [hc, takeBareLabel?_eq h]
    · cases h

theorem takeTitle?_eq {cs head label rest : List Char}
    (h : takeTitle? cs = some (head, label, rest)) :
    cs = head ++ [LabelKind.subgraph.opening] ++ label ++ [LabelKind.subgraph.closing] ++ rest := by
  simp only [takeTitle?] at h
  split at h
  · cases h
  · obtain ⟨⟨l, r⟩, hl, he⟩ := Option.map_eq_some_iff.1 h
    obtain ⟨rfl, rfl, rfl⟩ := by simpa using he
    have h₁ := List.takeWhile_append_dropWhile (p := isBlank) (l := cs)
    have h₂ := List.takeWhile_append_dropWhile (p := isWord) (l := cs.dropWhile isBlank)
    rw [takeLabel?_eq hl] at h₂
    conv => lhs; rw [← h₁, ← h₂]
    simp

theorem takeEnclosed?_eq {close : Char} {stop : Char → Bool} {cs text rest : List Char}
    (h : takeEnclosed? close stop cs = some (text, rest)) : cs = text ++ rest := by
  unfold takeEnclosed? at h
  split at h
  · rename_i c rest' hdrop
    split at h
    · obtain ⟨rfl, rfl⟩ := by simpa using h
      have hsplit := List.takeWhile_append_dropWhile (p := fun c => !stop c) (l := cs)
      rw [hdrop] at hsplit
      conv => lhs; rw [← hsplit]
      simp
    · cases h
  · cases h

theorem wordToken_text (word cs : List Char) :
    (wordToken word cs).1.text ++ (wordToken word cs).2 = word ++ cs := by
  unfold wordToken
  split
  · rename_i head label rest h
    split at h
    · simp [Token.text, takeTitle?_eq h]
    · cases h
  · split
    · rename_i label rest h
      simp [Token.text, takeLabel?_eq h]
    · split
      · rename_i label rest h
        split <;> simp [Token.text, takeLabel?_eq h, LabelKind.opening, LabelKind.closing]
      · simp [Token.text]

theorem firstToken_text (c : Char) (cs : List Char) :
    (firstToken c cs).1.text ++ (firstToken c cs).2 = c :: cs := by
  unfold firstToken
  split
  · simp [Token.text]
  · split
    · split
      · rename_i h
        simp [Token.text, takeEnclosed?_eq h]
      · simp [Token.text]
    · split
      · split
        · rename_i h
          simp [Token.text, takeEnclosed?_eq h]
        · simp [Token.text]
      · split
        · rw [wordToken_text]
          simp
        · simp [Token.text]

theorem length_wordToken_lt (word : List Char) (cs : List Char) (h : word ≠ []) :
    (wordToken word cs).2.length < word.length + cs.length := by
  have hpos := List.length_pos_iff.2 h
  unfold wordToken
  split
  · rename_i head label rest ht
    split at ht
    · have := congrArg List.length (takeTitle?_eq ht)
      simp at this ⊢
      omega
    · cases ht
  · split
    · rename_i label rest ht
      have := congrArg List.length (takeLabel?_eq ht)
      simp at this ⊢
      omega
    · split
      · rename_i label rest ht
        have := congrArg List.length (takeLabel?_eq ht)
        simp at this
        split <;> simp <;> omega
      · simp
        omega

theorem length_firstToken_le (c : Char) (cs : List Char) :
    (firstToken c cs).2.length ≤ cs.length := by
  unfold firstToken
  split
  · exact (List.dropWhile_suffix _).length_le
  · split
    · split
      · rename_i h
        have := congrArg List.length (takeEnclosed?_eq h)
        simp at this ⊢
        omega
      · simp
    · split
      · split
        · rename_i h
          have := congrArg List.length (takeEnclosed?_eq h)
          simp at this ⊢
          omega
        · simp
      · split
        · have h := length_wordToken_lt (c :: cs.takeWhile isWord) (cs.dropWhile isWord)
            (by simp)
          have hlen := congrArg List.length
            (List.takeWhile_append_dropWhile (p := isWord) (l := cs))
          rw [List.length_append] at hlen
          rw [List.length_cons] at h
          omega
        · simp

def tokens : List Char → List Token
  | [] => []
  | c :: cs => (firstToken c cs).1 :: tokens (firstToken c cs).2
termination_by cs => cs.length
decreasing_by
  simp only [List.length_cons]
  have := length_firstToken_le c cs
  omega

theorem flatMap_text_tokens (cs : List Char) : (tokens cs).flatMap Token.text = cs := by
  fun_induction tokens cs with
  | case1 => rfl
  | case2 c cs ih => rw [List.flatMap_cons, ih, firstToken_text]

end DiagramDoc.Flow
