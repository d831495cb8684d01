import DiagramDoc.Text.White

/-! # Lines and words

A text is cut at separators and put together again. `splitAt p` always gives one piece more than
there are separators, so `join` of the pieces of a split at one character is the text again.
`lines` is the reader's view: a final line feed opens no new line, and a carriage return in front
of a line feed belongs to the line's end. `replaceAtLineStarts` does not cut a text into lines; it
goes through all of it and replaces what it finds where a line starts.
-/

namespace DiagramDoc.Text

def splitAt (p : Char → Bool) : List Char → List (List Char)
  | [] => [[]]
  | c :: cs =>
    if p c then [] :: splitAt p cs
    else match splitAt p cs with
      | [] => [[c]]
      | piece :: pieces => (c :: piece) :: pieces

def join (sep : List Char) : List (List Char) → List Char
  | [] => []
  | [piece] => piece
  | piece :: pieces => piece ++ sep ++ join sep pieces

theorem splitAt_ne_nil (p : Char → Bool) (cs : List Char) : splitAt p cs ≠ [] := by
  cases cs with
  | nil => simp [splitAt]
  | cons c cs =>
    rw [splitAt]
    split
    · simp
    · split <;> simp

theorem join_splitAt (sep : Char) (cs : List Char) :
    join [sep] (splitAt (· == sep) cs) = cs := by
  induction cs with
  | nil => rfl
  | cons c cs ih =>
    have hne := splitAt_ne_nil (· == sep) cs
    obtain ⟨piece, pieces, hp⟩ := List.exists_cons_of_ne_nil hne
    rw [hp] at ih
    by_cases hc : c = sep
    · simp [splitAt, hp, hc, join, ih]
    · cases pieces with
      | nil => simp_all [splitAt, join]
      | cons q qs => simp_all [splitAt, join]

/-- Where a line starts, `find?` is given all that is left of the text. It finds a text there, which
is not empty, together with what is written for it, or it finds none. `starts` says whether a line
starts here, and the number is that of the characters that were found and are still to be passed
over; all others are copied. -/
def replaceFrom (find? : List Char → Option (List Char × List Char)) :
    Bool → Nat → List Char → List Char
  | _, _, [] => []
  | starts, 0, c :: cs =>
    match if starts then find? (c :: cs) else none with
    | some (found, written) => written ++ replaceFrom find? (c == '\n') (found.length - 1) cs
    | none => c :: replaceFrom find? (c == '\n') 0 cs
  | _, passing + 1, c :: cs => replaceFrom find? (c == '\n') passing cs

def replaceAtLineStarts (find? : List Char → Option (List Char × List Char)) :
    List Char → List Char :=
  replaceFrom find? true 0

/-- What is left of a line. -/
def restOfLine (cs : List Char) : List Char := cs.takeWhile (· ≠ '\n')

def dropReturn (line : List Char) : List Char :=
  if line.getLast? = some '\r' then line.dropLast else line

/-- The lines of `cs`. A line that a line feed ends loses the carriage return before it; what
follows the last line feed is a line only if it is not empty. -/
def lines (cs : List Char) : List (List Char) :=
  let pieces := splitAt (· == '\n') cs
  let last := pieces.getLastD []
  pieces.dropLast.map dropReturn ++ if last = [] then [] else [last]

def words (cs : List Char) : List (List Char) :=
  (splitAt isSpace cs).filter (· ≠ [])

end DiagramDoc.Text
