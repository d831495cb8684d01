import DiagramDoc.Diagram.Dialect
import DiagramDoc.Diagram.Flow.Token

/-! # Repair of flowcharts

A flowchart is cut into tokens once, and each label that the diagram's parser would reject is then
replaced by a quoted one. Nothing but labels changes, and no rule ever sees what another rule
wrote. A label that is quoted already, or that is a shape such as a database or a stadium rather
than a text, stays as it is; a label without a character that breaks the parser does, too, except
that a subgraph title is always quoted.
-/

namespace DiagramDoc.Flow

open Text

/-- Whether a label, without surrounding white space, starts and ends with a double quote, two
different ones. -/
def isQuotedLabel (label : List Char) : Bool :=
  let cs := trim label
  cs.length ≥ 2 && cs.head? == some '"' && cs.getLast? == some '"'

/-- Whether the brackets `left` and `right` enclose the whole label with neither of them inside. -/
def isEnclosedIn (left right : Char) (label : List Char) : Bool :=
  label.head? == some left && label.getLast? == some right &&
    !((label.drop 1).dropLast.any fun c => c = left || c = right)

def isSlash (c : Char) : Bool := c == '/' || c == '\\'

/-- Whether a label is part of a compound shape: a second pair of brackets, or slanted sides. Two
bracketed texts in one label are no shape. -/
def isShape (kind : LabelKind) (label : List Char) : Bool :=
  match kind with
  | .square =>
    isEnclosedIn '(' ')' label || (label.head?.any isSlash && label.getLast?.any isSlash)
  | .round => isEnclosedIn '[' ']' label
  | .subgraph => false

/-- The characters that break a label of a kind; `none` stands for a label that is always quoted. -/
def LabelKind.triggers? : LabelKind → Option (List Char)
  | subgraph => none
  | square => some ['(', ')', '/', ':', '&', '\n']
  | round => some ['/', ':', '&', '[', ']', '\n']

def needsQuotes (kind : LabelKind) (label : List Char) : Bool :=
  match kind.triggers? with
  | none => true
  | some triggers => label.any (triggers.contains ·)

def lineBreakMarkup : List Char := "<br>".toList

/-- `cs` with every line break and the white space behind it turned into markup. A carriage return
in front of the line feed belongs to the break. -/
def breakMarkup : List Char → List Char
  | [] => []
  | c :: cs =>
    if c = '\n' then lineBreakMarkup ++ breakMarkup (cs.dropWhile isSpace)
    else if c = '\r' ∧ cs.head? = some '\n' then
      lineBreakMarkup ++ breakMarkup (cs.dropWhile isSpace)
    else c :: breakMarkup cs
termination_by cs => cs.length
decreasing_by
  all_goals
    have hrest := (List.dropWhile_suffix (l := cs) isSpace).length_le
    simp only [List.length_cons]
    omega

def quoteEntity : List Char := "#quot;".toList

/-- The label in quotes: trimmed, on one line, and without a quote inside. -/
def quoted (label : List Char) : List Char :=
  ['"'] ++ (breakMarkup (trim label)).flatMap (fun c => if c = '"' then quoteEntity else [c]) ++
    ['"']

def quoteLabel? (kind : LabelKind) (label : List Char) : Option (List Char) :=
  if isQuotedLabel label || isShape kind label || !needsQuotes kind label then none
  else some (quoted label)

def Token.repaired : Token → Token
  | .label kind head content => .label kind head ((quoteLabel? kind content).getD content)
  | .plain text => .plain text

/-- Repairs a flowchart. A source that declares another type of diagram stays as it is. -/
def repair (source : List Char) : List Char :=
  if hasForeignHeader source then source
  else (tokens source).flatMap fun t => t.repaired.text

end DiagramDoc.Flow
