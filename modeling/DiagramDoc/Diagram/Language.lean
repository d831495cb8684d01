import DiagramDoc.Text.AsciiCase

/-! # Diagram languages

The languages whose fenced blocks are drawn as diagrams, and the formats of the images that a
server draws.
-/

namespace DiagramDoc

open Text

inductive Language where
  | mermaid
  | plantUml
  deriving DecidableEq, Repr

namespace Language

def name : Language → String
  | mermaid => "mermaid"
  | plantUml => "plantuml"

def ofFence? (word : String) : Option Language :=
  if sameIgnoringCase word "mermaid" then some mermaid
  else if sameIgnoringCase word "plantuml" || sameIgnoringCase word "puml" then some plantUml
  else none

end Language

inductive ImageFormat where
  | svg
  | png
  deriving DecidableEq, Repr

namespace ImageFormat

def name : ImageFormat → String
  | svg => "svg"
  | png => "png"

def ofName? (s : String) : Option ImageFormat :=
  if s = "svg" then some svg else if s = "png" then some png else none

theorem ofName?_name (f : ImageFormat) : ofName? f.name = some f := by
  cases f <;> decide

end ImageFormat

end DiagramDoc
