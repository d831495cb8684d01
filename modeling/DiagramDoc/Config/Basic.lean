import DiagramDoc.Rendering
import DiagramDoc.Unicode.Alphanumeric

/-! # Configurations

A configuration says how Markdown is rendered, how Mermaid is repaired and where PlantUML is drawn.
The command line may override single settings. A configuration is valid if its server is an address
on the web and if each of its extra reserved words could be the name of a participant.
-/

namespace DiagramDoc

open Unicode

structure Config where
  markdown : RenderOptions
  repair : Bool
  extraReserved : List String
  server : String
  format : ImageFormat
  /-- How sources are written into URLs; without an encoder PlantUML is not drawn. -/
  encoder : Option PlantUml.Encoder
  file : Option String
  deriving DecidableEq, Repr

inductive ConfigFault where
  | serverEmpty
  | serverScheme
  | wordEmpty
  | wordNotIdentifier (word : String)
  deriving DecidableEq, Repr

def ConfigFault.message : ConfigFault → String
  | serverEmpty => "plantuml.server_url cannot be empty"
  | serverScheme => "plantuml.server_url must start with http:// or https://"
  | wordEmpty => "mermaid.extra_reserved_words cannot be empty"
  | wordNotIdentifier word =>
    "mermaid.extra_reserved_words entry '" ++ word ++ "' must be a single identifier word"

structure Overrides where
  server : Option String
  format : Option ImageFormat
  encoder : Option (Option PlantUml.Encoder)
  repair : Option Bool
  breaks : Option Bool
  deriving DecidableEq, Repr

def Overrides.none : Overrides := ⟨.none, .none, .none, .none, .none⟩

namespace Config

def standard : Config :=
  ⟨⟨true, true, true⟩, true, [], PlantUml.publicServer, .svg, some .deflate, none⟩

def isWebAddress (server : String) : Bool :=
  "http://".toList.isPrefixOf server.toList || "https://".toList.isPrefixOf server.toList

def serverFault? (server : String) : Option ConfigFault :=
  if server = "" then some .serverEmpty
  else if isWebAddress server then none
  else some .serverScheme

def isIdentifier (word : String) : Bool :=
  word.toList.all fun c => isAlphanumeric c || c == '_'

def wordFault? (word : String) : Option ConfigFault :=
  if word = "" then some .wordEmpty
  else if isIdentifier word then none
  else some (.wordNotIdentifier word)

def fault? (c : Config) : Option ConfigFault :=
  (serverFault? c.server).or (c.extraReserved.findSome? wordFault?)

def override (c : Config) (o : Overrides) : Config :=
  { c with
    markdown := { c.markdown with breaks := o.breaks.getD c.markdown.breaks }
    repair := o.repair.getD c.repair
    server := o.server.getD c.server
    format := o.format.getD c.format
    encoder := o.encoder.getD c.encoder }

theorem override_none (c : Config) : c.override .none = c := rfl

def repairOptions (c : Config) : RepairOptions :=
  if c.repair then ⟨true, ReservedWords.standard.addAll c.extraReserved⟩ else .disabled

def processor (c : Config) (pass : Nat) : Processor :=
  ⟨c.repairOptions, c.server, c.format, c.encoder, pass⟩

end Config

end DiagramDoc
