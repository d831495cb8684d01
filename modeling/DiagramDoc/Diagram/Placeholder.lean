import DiagramDoc.Diagram.Language
import DiagramDoc.Html.Escape

/-! # Placeholders

A diagram is drawn by the page that shows the document, so a document holds a container in its
place: the repaired source for Mermaid, an image for PlantUML, or the source with an error message
when the source could not be written into a URL. The container's id names the language, the number
of the rendering and the place of the block in the document.
-/

namespace DiagramDoc

open Html

inductive Placeholder where
  | mermaid (id source : String)
  | plantUml (id source imageUrl : String)
  | unavailable (id source : String)
  deriving DecidableEq, Repr

namespace Placeholder

def idOf (language : Language) (pass index : Nat) : String :=
  language.name ++ "-" ++ toString pass ++ "-" ++ toString index

def id : Placeholder → String
  | mermaid id _ => id
  | plantUml id _ _ => id
  | unavailable id _ => id

def loadedScript : String := "this.parentNode.classList.remove('plantuml-loading')"

def failedScript : String :=
  "this.parentNode.classList.remove('plantuml-loading');" ++
    "this.parentNode.classList.add('plantuml-failed')"

def html : Placeholder → String
  | mermaid id source =>
    "<div class=\"mermaid\" id=\"" ++ escape id ++ "\">" ++ escape source ++ "</div>"
  | plantUml id source imageUrl =>
    "<div class=\"plantuml plantuml-loading\" id=\"" ++ escape id ++
      "\" data-plantuml-code=\"" ++ escape source ++
      "\"><img class=\"plantuml-diagram\" src=\"" ++ escape imageUrl ++
      "\" alt=\"PlantUML Diagram\" onload=\"" ++ loadedScript ++ "\" onerror=\"" ++
      failedScript ++ "\"></div>"
  | unavailable id source =>
    "<div class=\"plantuml plantuml-error\" id=\"" ++ escape id ++
      "\" data-plantuml-code=\"" ++ escape source ++
      "\"><p class=\"diagram-error-message\">PlantUML encoder unavailable</p>" ++
      "<details><summary>Source</summary><pre><code>" ++ escape source ++
      "</code></pre></details></div>"

end Placeholder

end DiagramDoc
