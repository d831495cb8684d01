import DiagramDoc.Diagram.Placeholder
import DiagramDoc.Proofs.Html.Entities

/-! # Reading containers

The container that stands for a diagram can be read back. An attribute value ends at the next double
quote and the text of an element at the next angle bracket, whatever the sources and addresses
spell, so the container of every placeholder is read as that placeholder and no two placeholders
have the same container.
-/

namespace DiagramDoc

open Html

namespace Placeholder

/-! ### Reading -/

/-- Reads a container of Mermaid behind its id. -/
def readMermaid? (id : String) (cs : List Char) : Option Placeholder := do
  let cs ← skip? ">" cs
  let (source, cs) ← readUntil? '<' cs
  if cs = "/div>".toList then some (.mermaid id source) else none

/-- Reads a container with an image behind its id. -/
def readPlantUml? (id : String) (cs : List Char) : Option Placeholder := do
  let (source, cs) ← readAttr? "data-plantuml-code" cs
  let cs ← skip? "><img class=\"plantuml-diagram\"" cs
  let (imageUrl, cs) ← readAttr? "src" cs
  let cs ← skip? " alt=\"PlantUML Diagram\" onload=\"" cs
  let cs ← skip? loadedScript cs
  let cs ← skip? "\" onerror=\"" cs
  let cs ← skip? failedScript cs
  if cs = "\"></div>".toList then some (.plantUml id source imageUrl) else none

/-- Reads a container with an error behind its id. The source is there twice, as a value and as a
text. -/
def readUnavailable? (id : String) (cs : List Char) : Option Placeholder := do
  let (source, cs) ← readAttr? "data-plantuml-code" cs
  let cs ← skip? "><p class=\"diagram-error-message\">PlantUML encoder unavailable</p>" cs
  let cs ← skip? "<details><summary>Source</summary><pre><code>" cs
  let (copy, cs) ← readUntil? '<' cs
  if cs = "/code></pre></details></div>".toList ∧ copy = source then some (.unavailable id source)
  else none

/-- Reads a container, whose class names the kind. -/
def read? (cs : List Char) : Option Placeholder := do
  let cs ← skip? "<div" cs
  let (kind, cs) ← readAttr? "class" cs
  let (id, cs) ← readAttr? "id" cs
  if kind = "mermaid" then readMermaid? id cs
  else if kind = "plantuml plantuml-loading" then readPlantUml? id cs
  else if kind = "plantuml plantuml-error" then readUnavailable? id cs
  else none

/-! ### Containers as attributes and texts -/

theorem toList_html_mermaid (id source : String) :
    (mermaid id source).html.toList =
      "<div".toList ++ ((attr "class" "mermaid").toList ++ ((attr "id" id).toList ++
        (">".toList ++ ((escape source).toList ++ '<' :: "/div>".toList)))) := by
  have hstart : "<div class=\"mermaid\" id=\"" =
      "<div" ++ attr "class" "mermaid" ++ " " ++ "id" ++ "=\"" := by
    decide +kernel
  have hend : "\">" = "\"" ++ ">" := rfl
  have hclose : "</div>".toList = '<' :: "/div>".toList := rfl
  have hhtml : (mermaid id source).html =
      "<div class=\"mermaid\" id=\"" ++ escape id ++ "\">" ++ escape source ++ "</div>" := rfl
  simp only [hhtml, attr, String.toList_append, List.append_assoc, hstart, hend, hclose]

theorem toList_html_plantUml (id source imageUrl : String) :
    (plantUml id source imageUrl).html.toList =
      "<div".toList ++ ((attr "class" "plantuml plantuml-loading").toList ++
        ((attr "id" id).toList ++ ((attr "data-plantuml-code" source).toList ++
          ("><img class=\"plantuml-diagram\"".toList ++ ((attr "src" imageUrl).toList ++
            (" alt=\"PlantUML Diagram\" onload=\"".toList ++ (loadedScript.toList ++
              ("\" onerror=\"".toList ++ (failedScript.toList ++ "\"></div>".toList))))))))) := by
  have hstart : "<div class=\"plantuml plantuml-loading\" id=\"" =
      "<div" ++ attr "class" "plantuml plantuml-loading" ++ " " ++ "id" ++ "=\"" := by
    decide +kernel
  have hcode : "\" data-plantuml-code=\"" =
      "\"" ++ " " ++ "data-plantuml-code" ++ "=\"" := rfl
  have himage : "\"><img class=\"plantuml-diagram\" src=\"" =
      "\"" ++ "><img class=\"plantuml-diagram\"" ++ " " ++ "src" ++ "=\"" := rfl
  have hend : "\" alt=\"PlantUML Diagram\" onload=\"" =
      "\"" ++ " alt=\"PlantUML Diagram\" onload=\"" := rfl
  have hhtml : (plantUml id source imageUrl).html =
      "<div class=\"plantuml plantuml-loading\" id=\"" ++ escape id ++
        "\" data-plantuml-code=\"" ++ escape source ++
        "\"><img class=\"plantuml-diagram\" src=\"" ++ escape imageUrl ++
        "\" alt=\"PlantUML Diagram\" onload=\"" ++ loadedScript ++ "\" onerror=\"" ++
        failedScript ++ "\"></div>" := rfl
  simp only [hhtml, attr, String.toList_append, List.append_assoc, hstart, hcode, himage,
    hend]

theorem toList_html_unavailable (id source : String) :
    (unavailable id source).html.toList =
      "<div".toList ++ ((attr "class" "plantuml plantuml-error").toList ++
        ((attr "id" id).toList ++ ((attr "data-plantuml-code" source).toList ++
          ("><p class=\"diagram-error-message\">PlantUML encoder unavailable</p>".toList ++
            ("<details><summary>Source</summary><pre><code>".toList ++
              ((escape source).toList ++ '<' :: "/code></pre></details></div>".toList)))))) := by
  have hstart : "<div class=\"plantuml plantuml-error\" id=\"" =
      "<div" ++ attr "class" "plantuml plantuml-error" ++ " " ++ "id" ++ "=\"" := by
    decide +kernel
  have hcode : "\" data-plantuml-code=\"" =
      "\"" ++ " " ++ "data-plantuml-code" ++ "=\"" := rfl
  have hmessage : "\"><p class=\"diagram-error-message\">PlantUML encoder unavailable</p>" =
      "\"" ++ "><p class=\"diagram-error-message\">PlantUML encoder unavailable</p>" := rfl
  have hclose : "</code></pre></details></div>".toList =
      '<' :: "/code></pre></details></div>".toList := rfl
  have hhtml : (unavailable id source).html =
      "<div class=\"plantuml plantuml-error\" id=\"" ++ escape id ++
        "\" data-plantuml-code=\"" ++ escape source ++
        "\"><p class=\"diagram-error-message\">PlantUML encoder unavailable</p>" ++
        "<details><summary>Source</summary><pre><code>" ++ escape source ++
        "</code></pre></details></div>" := rfl
  simp only [hhtml, attr, String.toList_append, List.append_assoc, hstart, hcode,
    hmessage, hclose]

theorem read?_div (kind id : String) (cs : List Char) :
    read? ("<div".toList ++ ((attr "class" kind).toList ++ ((attr "id" id).toList ++ cs))) =
      if kind = "mermaid" then readMermaid? id cs
      else if kind = "plantuml plantuml-loading" then readPlantUml? id cs
      else if kind = "plantuml plantuml-error" then readUnavailable? id cs
      else none := by
  simp only [read?, skip?_append, readAttr?_attr, Option.bind_eq_bind, Option.bind_some]

theorem readMermaid?_eq (id source : String) :
    readMermaid? id (">".toList ++ ((escape source).toList ++ '<' :: "/div>".toList)) =
      some (mermaid id source) := by
  rw [readMermaid?]
  refine Option.bind_eq_some_iff.2 ⟨_, skip?_append _ _, ?_⟩
  refine Option.bind_eq_some_iff.2 ⟨_, readUntil?_escape (by decide) _ _, ?_⟩
  exact if_pos rfl

theorem readPlantUml?_eq (id source imageUrl : String) :
    readPlantUml? id ((attr "data-plantuml-code" source).toList ++
      ("><img class=\"plantuml-diagram\"".toList ++ ((attr "src" imageUrl).toList ++
        (" alt=\"PlantUML Diagram\" onload=\"".toList ++ (loadedScript.toList ++
          ("\" onerror=\"".toList ++ (failedScript.toList ++ "\"></div>".toList))))))) =
      some (plantUml id source imageUrl) := by
  rw [readPlantUml?]
  refine Option.bind_eq_some_iff.2 ⟨_, readAttr?_attr _ _ _, ?_⟩
  refine Option.bind_eq_some_iff.2 ⟨_, skip?_append _ _, ?_⟩
  refine Option.bind_eq_some_iff.2 ⟨_, readAttr?_attr _ _ _, ?_⟩
  refine Option.bind_eq_some_iff.2 ⟨_, skip?_append _ _, ?_⟩
  refine Option.bind_eq_some_iff.2 ⟨_, skip?_append _ _, ?_⟩
  refine Option.bind_eq_some_iff.2 ⟨_, skip?_append _ _, ?_⟩
  refine Option.bind_eq_some_iff.2 ⟨_, skip?_append _ _, ?_⟩
  exact if_pos rfl

theorem readUnavailable?_eq (id source : String) :
    readUnavailable? id ((attr "data-plantuml-code" source).toList ++
      ("><p class=\"diagram-error-message\">PlantUML encoder unavailable</p>".toList ++
        ("<details><summary>Source</summary><pre><code>".toList ++
          ((escape source).toList ++ '<' :: "/code></pre></details></div>".toList)))) =
      some (unavailable id source) := by
  rw [readUnavailable?]
  refine Option.bind_eq_some_iff.2 ⟨_, readAttr?_attr _ _ _, ?_⟩
  refine Option.bind_eq_some_iff.2 ⟨_, skip?_append _ _, ?_⟩
  refine Option.bind_eq_some_iff.2 ⟨_, skip?_append _ _, ?_⟩
  refine Option.bind_eq_some_iff.2 ⟨_, readUntil?_escape (by decide) _ _, ?_⟩
  exact if_pos ⟨rfl, rfl⟩

/-- **A container is read as the placeholder that it was written for.** -/
theorem read?_html (p : Placeholder) : read? p.html.toList = some p := by
  cases p with
  | mermaid id source =>
    rw [toList_html_mermaid, read?_div, if_pos rfl, readMermaid?_eq]
  | plantUml id source imageUrl =>
    rw [toList_html_plantUml, read?_div, if_neg (by decide), if_pos rfl, readPlantUml?_eq]
  | unavailable id source =>
    rw [toList_html_unavailable, read?_div, if_neg (by decide), if_neg (by decide), if_pos rfl,
      readUnavailable?_eq]

/-! ### The tags of a container -/

/-- The tags of a container, without the values of their attributes. -/
def frame : Placeholder → List String
  | mermaid _ _ => ["div class=\"\" id=\"\"", "/div"]
  | plantUml _ _ _ => ["div class=\"\" id=\"\" data-plantuml-code=\"\"",
    "img class=\"\" src=\"\" alt=\"\" onload=\"\" onerror=\"\"", "/div"]
  | unavailable _ _ => ["div class=\"\" id=\"\" data-plantuml-code=\"\"", "p class=\"\"", "/p",
    "details", "summary", "/summary", "pre", "code", "/code", "/pre", "/details", "/div"]

theorem readsInside_class_id (kind id : String) :
    ReadsInside ("div".toList ++ (attr "class" kind).toList ++ (attr "id" id).toList)
      "div class=\"\" id=\"\"".toList :=
  ((readsInside_unmarked (by decide)).append (readsInside_attr "class" kind (by decide))).append
    (readsInside_attr "id" id (by decide))

theorem toList_open : "<div".toList = '<' :: "div".toList := rfl

theorem toList_turn : "><".toList = ['>', '<'] := rfl

theorem toList_close : ">".toList = ['>'] := rfl

theorem reads_html_mermaid (id source : String) :
    Reads (mermaid id source).html.toList ((mermaid id source).frame.map String.toList) := by
  have hend : Reads "</div>".toList ["/div".toList] := tags?_eq_some_iff.1 (by decide)
  have hall : Reads _ ((mermaid id source).frame.map String.toList) :=
    ((readsInside_class_id "mermaid" id).tag.append (reads_escape source)).append hend
  have hend' : '<' :: "/div>".toList = "</div>".toList := rfl
  rw [toList_html_mermaid, toList_open, toList_close, hend']
  simpa only [List.append_assoc, List.cons_append] using hall

theorem reads_html_plantUml (id source imageUrl : String) :
    Reads (plantUml id source imageUrl).html.toList
      ((plantUml id source imageUrl).frame.map String.toList) := by
  have hdiv := (readsInside_class_id "plantuml plantuml-loading" id).append
    (readsInside_attr "data-plantuml-code" source (by decide))
  have hname : ReadsInside "img".toList "img".toList := readsInside_unmarked (by decide)
  have hclass := readsInside_attr "class" "plantuml-diagram" (by decide)
  have hsrc := readsInside_attr "src" imageUrl (by decide)
  have halt := readsInside_attr "alt" "PlantUML Diagram" (by decide)
  have honload : ReadsInside _ " onload=\"\"".toList :=
    readsInside_quoted (by decide : IsUnmarked "onload".toList)
      (by decide +kernel : IsUnmarked loadedScript.toList)
  have honerror : ReadsInside _ " onerror=\"\"".toList :=
    readsInside_quoted (by decide : IsUnmarked "onerror".toList)
      (by decide +kernel : IsUnmarked failedScript.toList)
  have himg := ((((hname.append hclass).append hsrc).append halt).append honload).append honerror
  have hend : Reads "</div>".toList ["/div".toList] := tags?_eq_some_iff.1 (by decide)
  have hall : Reads _ ((plantUml id source imageUrl).frame.map String.toList) :=
    (hdiv.tag.append himg.tag).append hend
  have himage : "><img class=\"plantuml-diagram\"" =
      "><" ++ "img" ++ attr "class" "plantuml-diagram" := by
    decide +kernel
  have hload : " alt=\"PlantUML Diagram\" onload=\"" =
      attr "alt" "PlantUML Diagram" ++ " " ++ "onload" ++ "=\"" := by
    decide +kernel
  have herror : "\" onerror=\"" = "\"" ++ " " ++ "onerror" ++ "=\"" := rfl
  have hend' : "\"></div>" = "\"" ++ ">" ++ "</div>" := rfl
  rw [toList_html_plantUml, toList_open, himage, hload, herror, hend']
  simpa only [String.toList_append, toList_turn, toList_close, List.append_assoc,
    List.cons_append, List.nil_append] using hall

theorem reads_html_unavailable (id source : String) :
    Reads (unavailable id source).html.toList
      ((unavailable id source).frame.map String.toList) := by
  have hdiv := (readsInside_class_id "plantuml plantuml-error" id).append
    (readsInside_attr "data-plantuml-code" source (by decide))
  have hname : ReadsInside "p".toList "p".toList := readsInside_unmarked (by decide)
  have hp := (hname.append (readsInside_attr "class" "diagram-error-message" (by decide))).tag
  have hmessage : Reads "PlantUML encoder unavailable</p>".toList ["/p".toList] :=
    tags?_eq_some_iff.1 (by decide +kernel)
  have hdetails : Reads "<details><summary>Source</summary><pre><code>".toList
      ["details".toList, "summary".toList, "/summary".toList, "pre".toList, "code".toList] :=
    tags?_eq_some_iff.1 (by decide +kernel)
  have hend : Reads "</code></pre></details></div>".toList
      ["/code".toList, "/pre".toList, "/details".toList, "/div".toList] :=
    tags?_eq_some_iff.1 (by decide +kernel)
  have hall : Reads _ ((unavailable id source).frame.map String.toList) :=
    ((((hdiv.tag.append hp).append hmessage).append hdetails).append (reads_escape source)).append
      hend
  have hmessage' : "><p class=\"diagram-error-message\">PlantUML encoder unavailable</p>" =
      "><" ++ "p" ++ attr "class" "diagram-error-message" ++ ">" ++
        "PlantUML encoder unavailable</p>" := by
    decide +kernel
  have hend' : '<' :: "/code></pre></details></div>".toList =
      "</code></pre></details></div>".toList := rfl
  rw [toList_html_unavailable, toList_open, hmessage', hend']
  simpa only [String.toList_append, toList_turn, toList_close, List.append_assoc,
    List.cons_append, List.nil_append] using hall

/-- **The tags of a container are those of its kind**, whatever its id, source and address are. -/
theorem tags?_html (p : Placeholder) : tags? p.html.toList = some (p.frame.map String.toList) := by
  rw [tags?_eq_some_iff]
  cases p with
  | mermaid id source => exact reads_html_mermaid id source
  | plantUml id source imageUrl => exact reads_html_plantUml id source imageUrl
  | unavailable id source => exact reads_html_unavailable id source

/-- **Placeholders can be read back from their containers.** Each container is read as its own
placeholder, so different placeholders have different containers, and its tags are those of its
kind. All this rests on escaped text: it has no delimiters and no ampersands but those of its
entities, and is decoded to the text that was escaped. -/
theorem html_reads_back :
    (∀ p : Placeholder, read? p.html.toList = some p ∧
      tags? p.html.toList = some (p.frame.map String.toList)) ∧
    (∀ p q : Placeholder, p.html = q.html ↔ p = q) ∧
    ∀ s : String, IsEscaped (escape s).toList ∧ decode (escape s).toList = s.toList := by
  refine ⟨fun p => ⟨p.read?_html, p.tags?_html⟩, fun p q => ⟨fun h => ?_, fun h => h ▸ rfl⟩,
    fun s => ⟨isEscaped_escape s, decode_escape s⟩⟩
  have hread := q.read?_html
  rw [← h, p.read?_html] at hread
  exact Option.some.inj hread

/-- A source that spells entities, tags and the end of a value. -/
example : read? (mermaid "a\"b" "&amp;<b id=\"'&").html.toList =
    some (mermaid "a\"b" "&amp;<b id=\"'&") := by
  decide +kernel

end Placeholder

end DiagramDoc
