import DiagramDoc.Cli.Command
import DiagramDoc.Page

/-! # Running a command

A run has two halves. First the command makes its product from the configuration and its input, or
fails, and in that half nothing is written. Then the product is delivered: to the file that it is
meant for, or to the standard output with a line feed at its end.
-/

namespace DiagramDoc.Cli

open PlantUml

inductive Failure where
  | config (error : ConfigError)
  | unreadable (path : String) (error : FileError)
  | unreadableInput (error : FileError)
  | unwritable (path : String) (error : FileError)
  | noEncoder
  | needsRepair (dialect : Dialect)
  deriving DecidableEq, Repr

def Failure.message : Failure → String
  | config error => error.message
  | unreadable path error => "cannot read " ++ path ++ ": " ++ error.message
  | unreadableInput error => "cannot read stdin: " ++ error.message
  | unwritable path error => "cannot write " ++ path ++ ": " ++ error.message
  | noEncoder => "PlantUML encoder unavailable (plantuml.encoding = \"none\")"
  | needsRepair dialect => dialect.name ++ " diagram needs repair"

structure Context where
  workspace : Workspace
  input : List UInt8

structure Product where
  text : Option String
  target : Option String
  warnings : List String
  reports : List String
  deriving DecidableEq, Repr

def Product.plain (text : String) : Product := ⟨some text, none, [], []⟩

def Source.read (context : Context) : Source → Except Failure String
  | standardInput => (textOf context.input).mapError .unreadableInput
  | file path =>
    (context.workspace.files.read context.workspace.directory path).mapError (.unreadable path)

/-- The title of a page whose document has none: the name of its file, or a name for any. -/
def Source.title : Source → String
  | standardInput => "Untitled"
  | file path => ((fileName? path).map stem).getD "Untitled"

def loadConfig (context : Context) (file : Option String) (overrides : Overrides) :
    Except Failure Config :=
  (Config.load context.workspace file (some overrides)).mapError .config

def documentHtml (c : RenderCommand) (r : Rendering (List Warning)) : String :=
  if c.standalone then Page.html ⟨r.title.getD c.source.title, r.html, r.toc⟩ else r.html

def RenderCommand.product (c : RenderCommand) (context : Context) : Except Failure Product := do
  let config ← loadConfig context c.configFile c.overrides
  let markdown ← c.source.read context
  let r := renderDiagrams config.markdown (config.processor 1) markdown
  return ⟨some (documentHtml c r), c.target, r.handlerState.map fun w => "Warning: " ++ w.message,
    c.target.toList.map fun path => "Rendered to " ++ path⟩

def repairOverrides : Overrides := { Overrides.none with repair := some true }

def RepairCommand.product (c : RepairCommand) (context : Context) : Except Failure Product := do
  let config ← loadConfig context c.configFile repairOverrides
  let source ← c.source.read context
  let dialect := c.dialect.getD (Dialect.ofSource source.toList)
  let repaired := repairAs dialect config.repairOptions source
  if c.check then
    if repaired = source then return ⟨none, none, [], []⟩ else throw (.needsRepair dialect)
  else return ⟨some repaired, c.target, [], []⟩

def classifyProduct (source : Source) (context : Context) : Except Failure Product := do
  let text ← source.read context
  return .plain (Dialect.ofSource text.toList).name

def EncodeCommand.product (c : EncodeCommand) (context : Context) : Except Failure Product := do
  let config ← loadConfig context c.configFile c.overrides
  let source ← c.source.read context
  match config.encoder with
  | none => throw .noEncoder
  | some encoder =>
    let segment := encodeSource encoder source
    return .plain (if c.url then imageUrl config.server config.format segment else segment)

def versionText : String := "mdv 0.1.0\n"

def usageText : String :=
  "Usage: mdv [-v] render|repair|classify|encode [OPTIONS] [INPUT]\n"

def Command.product (context : Context) : Command → Except Failure Product
  | version => .ok (.plain versionText)
  | help => .ok (.plain usageText)
  | render c => c.product context
  | repair c => c.product context
  | classify source => classifyProduct source context
  | encode c => c.product context

structure Outcome where
  status : Nat
  output : String
  messages : List String
  written : Option (Location × String)
  deriving DecidableEq, Repr

def Outcome.filesAfter (o : Outcome) (files : FileTree) : FileTree :=
  match o.written with
  | some (location, text) => files.put location (Text.bytes text)
  | none => files

def Failure.outcome (failure : Failure) (messages : List String) : Outcome :=
  ⟨1, "", messages ++ ["Error: " ++ failure.message], none⟩

def Product.deliver (p : Product) (w : Workspace) : Outcome :=
  match p.text, p.target with
  | none, _ => ⟨0, "", p.warnings ++ p.reports, none⟩
  | some text, none => ⟨0, Page.endLine text, p.warnings ++ p.reports, none⟩
  | some text, some path =>
    match w.files.locateFile w.directory path with
    | .ok location => ⟨0, "", p.warnings ++ p.reports, some (location, text)⟩
    | .error e => (Failure.unwritable path e).outcome p.warnings

def Command.run (command : Command) (context : Context) : Outcome :=
  match command.product context with
  | .ok product => product.deliver context.workspace
  | .error failure => failure.outcome []

def rejection : Outcome := ⟨2, "", ["Error: not a command of this program", usageText], none⟩

def runArguments (context : Context) (arguments : List String) : Outcome :=
  match Command.ofArguments? context.workspace.environment arguments with
  | some command => command.run context
  | none => rejection

end DiagramDoc.Cli
