import DiagramDoc.Config.Decoding
import DiagramDoc.Config.Template
import DiagramDoc.Files.Tree

/-! # Loading a configuration

The configuration is read from the file that is named, or from the nearest file of the usual name
in the working directory and the directories around it; without a file it is the standard one. What
was read has its server's references filled in and must be valid, and so must be what it becomes by
the settings of the command line.
-/

namespace DiagramDoc

structure Workspace where
  files : FileTree
  directory : Location
  environment : Environment

inductive ConfigError where
  | notFound (path : String)
  | unreadable (error : FileError)
  | notToml
  | invalid (fault : ConfigFault)
  | unset (field name : String)
  deriving DecidableEq, Repr

def ConfigError.message : ConfigError → String
  | notFound path => "Configuration file not found: " ++ path
  | unreadable error => "I/O error: " ++ error.message
  | notToml => "TOML parse error: not a configuration"
  | invalid fault => "Configuration error: " ++ fault.message
  | unset field name =>
    "Environment variable error in " ++ field ++ ": $\x7b" ++ name ++ "\x7d not set"

def expandField (environment : Environment) (field value : String) : Except ConfigError String :=
  (expandValue environment value).mapError (.unset field)

namespace Config

def fileName : String := "mdv.toml"

def candidates (directory : Location) : List Location :=
  directory.around.map (fileName :: ·)

def discover? (files : FileTree) (directory : Location) : Option Location :=
  (candidates directory).find? files.has

def findText (files : FileTree) (directory : Location) (named : Option String) :
    Except ConfigError (Option (String × String)) :=
  match named with
  | some path =>
    if files.hasPath directory path then
      match files.read directory path with
      | .ok text => .ok (some (path, text))
      | .error e => .error (.unreadable e)
    else .error (.notFound path)
  | none =>
    match discover? files directory with
    | some location =>
      match files.readAt location with
      | .ok text => .ok (some (location.path, text))
      | .error e => .error (.unreadable e)
    | none => .ok none

def checked (c : Config) : Except ConfigError Config :=
  match c.fault? with
  | some fault => .error (.invalid fault)
  | none => .ok c

theorem checked_eq_ok_iff {c d : Config} : c.checked = .ok d ↔ c.fault? = none ∧ c = d := by
  unfold checked
  split <;> simp_all

def ofText (environment : Environment) (file text : String) : Except ConfigError Config :=
  match ofToml? text with
  | none => .error .notToml
  | some c =>
    match expandField environment "plantuml.server_url" c.server with
    | .error e => .error e
    | .ok server => { c with server := server, file := some file }.checked

def ofFiles (w : Workspace) (named : Option String) : Except ConfigError Config :=
  match findText w.files w.directory named with
  | .error e => .error e
  | .ok none => .ok standard
  | .ok (some (file, text)) => ofText w.environment file text

def variablesAsked (files : FileTree) (directory : Location) (named : Option String) :
    List String :=
  match findText files directory named with
  | .ok (some (_, text)) => (ofToml? text).elim [] fun c => variablesOf c.server
  | _ => []

def load (w : Workspace) (named : Option String) (overrides : Option Overrides) :
    Except ConfigError Config :=
  match ofFiles w named, overrides with
  | .error e, _ => .error e
  | .ok c, none => .ok c
  | .ok c, some o => (c.override o).checked

end Config

end DiagramDoc
