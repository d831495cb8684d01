import DiagramDoc.Text.Lines

/-! # PlantUML documents

A server takes whole documents, which open with a start marker. A source that has no marker is
wrapped in the plain pair of markers; one that has a marker in some line is a document already.
-/

namespace DiagramDoc.PlantUml

open Text

def startMarker : List Char := "@start".toList

def isStart (line : List Char) : Bool := startMarker.isPrefixOf (trimStart line)

def hasStart (cs : List Char) : Bool := (lines cs).any isStart

def document (source : String) : String :=
  let body := trim source.toList
  if hasStart body then String.ofList body
  else "@startuml\n" ++ String.ofList body ++ "\n@enduml"

end DiagramDoc.PlantUml
