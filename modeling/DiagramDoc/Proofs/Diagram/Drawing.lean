import DiagramDoc.Diagram.Processor
import DiagramDoc.Proofs.Document.Attributes
import DiagramDoc.Proofs.PlantUml.Addresses

/-! # What is drawn, and what is warned about

A PlantUML source is drawn by an image whose address is made from the server, the format and the
document, or it is shown with a message if there is no encoder. Everything about a block that has no
effect gives rise to one warning of its own, and nothing else does.
-/

namespace DiagramDoc

open PlantUml

/-- The warnings are those with the property, and each of them is given once. -/
structure AreExactly (warnings : List Warning) (holds : Warning → Prop) : Prop where
  nodup : warnings.Nodup
  mem_iff : ∀ w, w ∈ warnings ↔ holds w

section AreExactly

variable {warnings more : List Warning} {P Q : Warning → Prop}

theorem AreExactly.append (hP : AreExactly warnings P) (hQ : AreExactly more Q)
    (hdisjoint : ∀ w, P w → ¬ Q w) : AreExactly (warnings ++ more) fun w => P w ∨ Q w := by
  constructor
  · refine List.nodup_append.2 ⟨hP.nodup, hQ.nodup, ?_⟩
    rintro w hw _ hmore rfl
    exact hdisjoint w ((hP.mem_iff w).1 hw) ((hQ.mem_iff w).1 hmore)
  · intro w
    rw [List.mem_append, hP.mem_iff, hQ.mem_iff]

theorem AreExactly.congr (hP : AreExactly warnings P) (h : ∀ w, P w ↔ Q w) :
    AreExactly warnings Q :=
  ⟨hP.nodup, fun w => (hP.mem_iff w).trans (h w)⟩

end AreExactly

namespace Processor

variable {attrs : Attributes}

/-- The format is the one that the attributes name, or the default if they name none. -/
def Chooses (p : Processor) (attrs : Attributes) (format : ImageFormat) : Prop :=
  attrs.get? "format" = some format.name ∨
    (∀ f : ImageFormat, attrs.get? "format" ≠ some f.name) ∧ format = p.format

/-- The placeholder shows an image of the source if there is an encoder, and a message if not. -/
structure Shows (p : Processor) (attrs : Attributes) (id source : String)
    (shown : Placeholder) : Prop where
  drawn : ∀ encoder, p.encoder = some encoder → ∃ base format, IsBaseOf base p.server ∧
    p.Chooses attrs format ∧ shown = .plantUml id source
      (base ++ "/" ++ format.name ++ "/" ++ encoder.encode (document source))
  unavailable : p.encoder = none → shown = .unavailable id source

/-! ### The format -/

end Processor

end DiagramDoc
