import DiagramDoc.Diagram.Flow.Repair
import DiagramDoc.Diagram.Sequence.Repair

/-! # Repair of Mermaid sources

Authors write Mermaid that its parser rejects: labels with parentheses or slashes, node texts over
several lines, participants named after keywords. Repair turns those pieces into the quoted
forms that the parser accepts and copies everything else.
-/

namespace DiagramDoc

structure RepairOptions where
  enabled : Bool
  reserved : ReservedWords
  deriving DecidableEq, Repr

namespace RepairOptions

def standard : RepairOptions := ⟨true, .standard⟩

def disabled : RepairOptions := ⟨false, .standard⟩

end RepairOptions

def repairAs (dialect : Dialect) (options : RepairOptions) (source : String) : String :=
  if options.enabled then
    match dialect with
    | .sequence => String.ofList (Sequence.repair options.reserved source.toList)
    | .flow => String.ofList (Flow.repair source.toList)
  else source

def repair (options : RepairOptions) (source : String) : String :=
  repairAs (Dialect.ofSource source.toList) options source

end DiagramDoc
