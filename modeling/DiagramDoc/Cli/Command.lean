import DiagramDoc.Cli.Arguments
import DiagramDoc.Config.Loading

/-! # Commands

The program renders documents, repairs and classifies Mermaid, and encodes PlantUML. A command line
that is not of the form of a command is rejected as a whole.
-/

namespace DiagramDoc.Cli

inductive Source where
  | standardInput
  | file (path : String)
  deriving DecidableEq, Repr

/-- The source that an operand names. A single dash stands for the standard input, also with parts
behind it that do not lead anywhere. -/
def Source.ofOperand : Option String → Source
  | none => .standardInput
  | some path =>
    match pathParts path with
    | "-" :: rest => if rest.all isIdlePart then .standardInput else .file path
    | _ => .file path

structure RenderCommand where
  source : Source
  target : Option String
  standalone : Bool
  configFile : Option String
  overrides : Overrides
  deriving DecidableEq, Repr

structure RepairCommand where
  source : Source
  target : Option String
  dialect : Option Dialect
  check : Bool
  configFile : Option String
  deriving DecidableEq, Repr

structure EncodeCommand where
  source : Source
  url : Bool
  configFile : Option String
  overrides : Overrides
  deriving DecidableEq, Repr

inductive Command where
  | version
  | help
  | render (c : RenderCommand)
  | repair (c : RepairCommand)
  | classify (source : Source)
  | encode (c : EncodeCommand)
  deriving DecidableEq, Repr

def serverVariable : String := "MDV_PLANTUML_SERVER"

def commonForms : List OptionForm := [⟨"verbose", some 'v', none⟩, helpForm]

def configForm : OptionForm := ⟨"config", some 'c', some .path⟩

def outputForm : OptionForm := ⟨"output", some 'o', some .path⟩

def dialects : List Dialect := [.sequence, .flow]

def plantUmlForms : List OptionForm :=
  [⟨"plantuml-server", none, some .text⟩,
    ⟨"plantuml-format", none, some (.oneOf ["svg", "png"])⟩,
    ⟨"plantuml-encoding", none, some (.oneOf ["deflate", "hex", "none"])⟩]

def renderForms : List OptionForm :=
  commonForms ++ plantUmlForms ++
    [outputForm, configForm, ⟨"standalone", none, none⟩, ⟨"no-repair", none, none⟩,
      ⟨"no-breaks", none, none⟩]

def repairForms : List OptionForm :=
  commonForms ++
    [outputForm, configForm, ⟨"dialect", none, some (.oneOf (dialects.map Dialect.name))⟩,
      ⟨"check", none, none⟩]

def encodeForms : List OptionForm :=
  commonForms ++ plantUmlForms ++ [configForm, ⟨"url", none, none⟩]

/-- The value of an option, read by `decode?`; `none` if the value means nothing. -/
def Arguments.decode? {α : Type} (a : Arguments) (name : String) (decode? : String → Option α) :
    Option (Option α) :=
  match a.value? name with
  | none => some none
  | some value => (decode? value).map some

def dialect? (name : String) : Option Dialect := dialects.find? fun d => d.name = name

def Arguments.source (a : Arguments) : Source := .ofOperand a.operand

/-- The settings that the options override, with the server of the environment if no option names
one. -/
def Arguments.overrides? (a : Arguments) (environment : Environment) : Option Overrides := do
  let format ← a.decode? "plantuml-format" ImageFormat.ofName?
  let encoder ← a.decode? "plantuml-encoding" encoderOfName?
  some ⟨(a.value? "plantuml-server").or (environment.value? serverVariable), format, encoder,
    if a.has "no-repair" then some false else none,
    if a.has "no-breaks" then some false else none⟩

def renderCommand? (environment : Environment) (a : Arguments) : Option Command := do
  let overrides ← a.overrides? environment
  some (.render ⟨a.source, a.value? "output", a.has "standalone", a.value? "config", overrides⟩)

def repairCommand? (a : Arguments) : Option Command := do
  let dialect ← a.decode? "dialect" dialect?
  some (.repair ⟨a.source, a.value? "output", dialect, a.has "check", a.value? "config"⟩)

def encodeCommand? (environment : Environment) (a : Arguments) : Option Command := do
  let overrides ← a.overrides? environment
  some (.encode ⟨a.source, a.has "url", a.value? "config", overrides⟩)

def commandNames : List String := ["render", "repair", "classify", "encode", "help"]

/-- The command of that name with these arguments. Help is about the whole program or one command.
-/
def namedCommand? (environment : Environment) (name : String) (arguments : List String) :
    Option Command :=
  let sorted (forms : List OptionForm) (make : Arguments → Option Command) : Option Command :=
    (sortArguments? forms .empty none arguments).bind fun a =>
      if a.asksForHelp then some .help else make a
  match name with
  | "render" => sorted renderForms (renderCommand? environment)
  | "repair" => sorted repairForms repairCommand?
  | "classify" => sorted commonForms fun a => some (.classify a.source)
  | "encode" => sorted encodeForms (encodeCommand? environment)
  | "help" =>
    if arguments.length ≤ 1 ∧ arguments.all commandNames.contains then some .help else none
  | _ => none

/-- Letters in front of the command: the command that they ask for, or whether the program is to be
verbose. -/
def leadingLetters? (verbose : Bool) : List Char → Option (Command ⊕ Bool)
  | [] => some (.inr verbose)
  | 'V' :: _ => some (.inl .version)
  | 'h' :: _ => some (.inl .help)
  | 'v' :: cs => if verbose then none else leadingLetters? true cs
  | _ => none

def commandFrom? (environment : Environment) (verbose : Bool) : List String → Option Command
  | [] => none
  | argument :: rest =>
    match ArgumentKind.of argument with
    | .endOfOptions => none
    | .long name none =>
      if name = "version" then some .version
      else if name = "help" then some .help
      else if name = "verbose" ∧ !verbose then commandFrom? environment true rest
      else none
    | .long _ (some _) => none
    | .letters letters =>
      match leadingLetters? verbose letters with
      | some (.inl command) => some command
      | some (.inr verbose) => commandFrom? environment verbose rest
      | none => none
    | .plain => namedCommand? environment argument rest

def Command.ofArguments? (environment : Environment) (arguments : List String) : Option Command :=
  commandFrom? environment false arguments

/-- The configuration's file that a command names; `none` for a command without configuration. -/
def Command.configFile? : Command → Option (Option String)
  | render c => some c.configFile
  | repair c => some c.configFile
  | encode c => some c.configFile
  | _ => none

def Command.source? : Command → Option Source
  | render c => some c.source
  | repair c => some c.source
  | classify source => some source
  | encode c => some c.source
  | _ => none

/-- The paths where a configuration may be: the one that is named, or the usual ones. -/
def configPaths (directory : Location) : Option String → List String
  | some path => [path]
  | none => (Config.candidates directory).map Location.path

def Command.readPaths (directory : Location) (command : Command) : List String :=
  (command.configFile?.elim [] (configPaths directory)) ++
    match command.source? with
    | some (.file path) => [path]
    | _ => []

def Command.target? : Command → Option String
  | render c => c.target
  | repair c => c.target
  | _ => none

end DiagramDoc.Cli
