import DiagramDoc.Config.Basic
import DiagramDoc.Toml.Document

/-! # Configurations in TOML

A file has a section for each part of the configuration. A section is a table with the names of its
settings or an array with their values in the order of declaration; a time counts as a table that
has none of them. Settings that are left out have their default. A value of the wrong kind makes the
whole file invalid. Names that mean nothing are passed over, but what stands under them must be
possible to store; what follows the settings of an array is not looked at.
-/

namespace DiagramDoc

open Toml

def Toml.Value.boolean? : Value → Option Bool
  | .boolean b => some b
  | _ => none

def Toml.Value.string? : Value → Option String
  | .string s => some s
  | _ => none

def Toml.Value.strings? : Value → Option (List String)
  | .array items => items.mapM Value.string?
  | _ => none

/-- A choice by name: the name as a text, or as the only key of a table that says nothing more
about it. -/
def Toml.Value.choice? : Value → Option String
  | .string name => some name
  | .table [(name, .table [])] => some name
  | .table [(name, .array [])] => some name
  | _ => none

def Toml.Value.format? (v : Value) : Option ImageFormat := v.choice?.bind ImageFormat.ofName?

def encoderOfName? (name : String) : Option (Option PlantUml.Encoder) :=
  if name = "deflate" then some (some .deflate)
  else if name = "hex" then some (some .hex)
  else if name = "none" then some none
  else none

def Toml.Value.encoder? (v : Value) : Option (Option PlantUml.Encoder) :=
  v.choice?.bind encoderOfName?

/-- A section of a file: a function from the name of a setting and its place to its value. -/
abbrev Section := String → Nat → Option Value

def othersStorable (names : List String) (entries : List (String × Value)) : Bool :=
  entries.all fun (name, v) => names.contains name || v.isStorable

def sectionOf? (names : List String) : Value → Option Section
  | .table entries =>
    if othersStorable names entries then
      some fun name _ => (entries.find? (·.1 = name)).map (·.2)
    else none
  | .array items => some fun _ place => items[place]?
  | .time => some fun _ _ => none
  | _ => none

/-- The section of a document with the settings `settings`; one that is left out has none. -/
def findSection? (document : List (String × Value)) (name : String) (settings : List String) :
    Option Section :=
  match document.find? (·.1 = name) with
  | some (_, v) => sectionOf? settings v
  | none => some fun _ _ => none

def Section.setting? {α : Type} (s : Section) (name : String) (place : Nat) (standard : α)
    (decode? : Value → Option α) : Option α :=
  match s name place with
  | some v => decode? v
  | none => some standard

namespace Config

def ofDocument? (document : List (String × Value)) : Option Config := do
  let markdown ← findSection? document "markdown" ["gfm", "breaks", "extract_title"]
  let mermaid ← findSection? document "mermaid" ["repair", "extra_reserved_words"]
  let plantUml ← findSection? document "plantuml" ["server_url", "format", "encoding"]
  let gfm ← markdown.setting? "gfm" 0 standard.markdown.gfm Value.boolean?
  let breaks ← markdown.setting? "breaks" 1 standard.markdown.breaks Value.boolean?
  let extractTitle ←
    markdown.setting? "extract_title" 2 standard.markdown.extractTitle Value.boolean?
  let repair ← mermaid.setting? "repair" 0 standard.repair Value.boolean?
  let extraReserved ←
    mermaid.setting? "extra_reserved_words" 1 standard.extraReserved Value.strings?
  let server ← plantUml.setting? "server_url" 0 standard.server Value.string?
  let format ← plantUml.setting? "format" 1 standard.format Value.format?
  let encoder ← plantUml.setting? "encoding" 2 standard.encoder Value.encoder?
  if othersStorable ["markdown", "mermaid", "plantuml"] document then
    some ⟨⟨gfm, breaks, extractTitle⟩, repair, extraReserved, server, format, encoder, none⟩
  else none

def ofToml? (text : String) : Option Config := (Toml.parse? text).bind ofDocument?

end Config

end DiagramDoc
