import DiagramDoc.Cli.Run

/-! # The program

Looks at the files, variables and input that a command depends on, runs the command on them, and
does what its outcome says.
-/

namespace DiagramDoc.Cli

def lookAt (wanted : Bool) (location : Location) : IO (Option (Location × FileNode)) := do
  let path := (← IO.currentDir) / location.path
  if ← path.isDir then return some (location, .directory)
  else if !(← path.pathExists) then return none
  else if wanted then return some (location, .file (← IO.FS.readBinFile path).data.toList)
  else return some (location, .file [])

def lookAlong (wanted : Bool) (directory : Location) (paths : List String) :
    IO (List (Location × FileNode)) :=
  (paths.flatMap (pathTrail directory)).eraseDups.filterMapM (lookAt wanted)

def lookUp (names : List String) : IO Environment :=
  names.filterMapM fun name => do return (← IO.getEnv name).map fun value => (name, value)

partial def readAll (stream : IO.FS.Stream) (read : ByteArray) : IO ByteArray := do
  let more ← stream.read 65536
  if more.isEmpty then return read else readAll stream (read ++ more)

def contextOf (command : Command) : IO Context := do
  let directory : Location := ((pathParts (← IO.currentDir).toString).filter (· ≠ "")).reverse
  let sources ← lookAlong true directory (command.readPaths directory)
  let targets ← lookAlong false directory command.target?.toList
  let files : FileTree := ⟨sources ++ targets⟩
  let asked := command.configFile?.elim [] (Config.variablesAsked files directory)
  let input ← match command.source? with
    | some .standardInput => readAll (← IO.getStdin) .empty
    | _ => pure .empty
  return ⟨⟨files, directory, ← lookUp asked⟩, input.data.toList⟩

def perform (outcome : Outcome) : IO UInt32 := do
  match outcome.written with
  | some (location, text) => IO.FS.writeBinFile location.path text.toUTF8
  | none => pure ()
  (← IO.getStdout).putStr outcome.output
  outcome.messages.forM fun message => IO.eprintln message
  return outcome.status.toUInt32

end DiagramDoc.Cli

def main (arguments : List String) : IO UInt32 := do
  let environment ← DiagramDoc.Cli.lookUp [DiagramDoc.Cli.serverVariable]
  match DiagramDoc.Cli.Command.ofArguments? environment arguments with
  | some command => DiagramDoc.Cli.perform (command.run (← DiagramDoc.Cli.contextOf command))
  | none => DiagramDoc.Cli.perform DiagramDoc.Cli.rejection
