import DiagramDoc.Text.AsciiCase
import DiagramDoc.Text.Lines

/-! # Dialects of Mermaid

Only two dialects matter for repair. Sequence diagrams have rules of their own for participants and
messages, and one header line makes a source a sequence diagram wherever it stands; every other
source is treated as a flowchart. Among those, some diagram types share no syntax with flowcharts:
the first line that carries syntax names them.
-/

namespace DiagramDoc

open Text

inductive Dialect where
  | sequence
  | flow
  deriving DecidableEq, Repr

namespace Dialect

def name : Dialect → String
  | sequence => "sequence"
  | flow => "flow"

def ofName? (s : String) : Option Dialect :=
  [sequence, flow].find? fun d => sameIgnoringCase d.name s

def sequenceHeader : List Char := "sequenceDiagram".toList

/-- A source is a sequence diagram when some line, without surrounding white space, is the sequence
header, and a flowchart otherwise. -/
def ofSource (source : List Char) : Dialect :=
  if (lines source).any (fun line => trim line == sequenceHeader) then sequence else flow

end Dialect

def foreignHeaders : List String := [
  "classDiagram", "classDiagram-v2", "stateDiagram", "stateDiagram-v2", "erDiagram", "gantt", "pie",
  "journey", "gitGraph", "requirementDiagram", "C4Context", "C4Container", "C4Component",
  "C4Dynamic", "C4Deployment", "mindmap", "sankey-beta", "xychart-beta", "quadrantChart",
  "timeline", "packet-beta", "block-beta", "architecture-beta"]

def frontMatterFence : List Char := "---".toList

/-- The trimmed lines behind a leading front matter block. A block that is never closed takes all
lines. -/
def dropFrontMatter : List (List Char) → List (List Char)
  | [] => []
  | line :: rest =>
    if line = frontMatterFence then (rest.dropWhile (· ≠ frontMatterFence)).drop 1
    else line :: rest

/-- Whether a trimmed line carries syntax: it is neither empty nor a comment. -/
def carriesSyntax (line : List Char) : Bool :=
  line ≠ [] && !(['%', '%'].isPrefixOf line)

def significantLine? (source : List Char) : Option (List Char) :=
  (dropFrontMatter ((lines source).map trim)).find? carriesSyntax

def hasForeignHeader (source : List Char) : Bool :=
  match significantLine? source with
  | some line =>
    match words line with
    | keyword :: _ => foreignHeaders.any fun h => h.toList == keyword
    | [] => false
  | none => false

end DiagramDoc
