import DiagramDoc.Files.Location
import DiagramDoc.Text.Bytes

/-! # File trees

A tree says what stands at each location: a file with its bytes, a directory, or nothing. The root
is a directory, and so is every location that something lies in. Reading a path walks through the
directories that it names; writing a path puts one file into the tree and needs the directory around
it.
-/

namespace DiagramDoc

open Text

inductive FileNode where
  | file (content : List UInt8)
  | directory
  deriving DecidableEq, Repr

/-- The files and directories of a file system. An earlier entry counts before a later one of the
same location. -/
structure FileTree where
  entries : List (Location × FileNode)
  deriving DecidableEq, Repr

inductive FileError where
  | missing
  | isDirectory
  | notDirectory
  | notText
  deriving DecidableEq, Repr

def FileError.message : FileError → String
  | missing => "No such file or directory (os error 2)"
  | isDirectory => "Is a directory (os error 21)"
  | notDirectory => "Not a directory (os error 20)"
  | notText => "stream did not contain valid UTF-8"

def textOf (content : List UInt8) : Except FileError String :=
  match textOfBytes? content with
  | some s => .ok s
  | none => .error .notText

namespace FileTree

def node? (tree : FileTree) (location : Location) : Option FileNode :=
  if location = [] then some .directory
  else match tree.entries.find? (·.1 = location) with
    | some (_, node) => some node
    | none =>
      if tree.entries.any fun entry => location.isSuffixOf entry.1 then some .directory else none

def has (tree : FileTree) (location : Location) : Bool := (tree.node? location).isSome

/-- Walks from a location along the parts of a path. Every part but the first is looked up in a
directory. -/
def walk (tree : FileTree) (location : Location) : List String → Except FileError Location
  | [] => .ok location
  | part :: parts =>
    match tree.node? location with
    | some .directory => tree.walk (location.follow part) parts
    | some (.file _) => .error .notDirectory
    | none => .error .missing

def locate (tree : FileTree) (directory : Location) (path : String) : Except FileError Location :=
  if path = "" then .error .missing
  else tree.walk (pathStart directory path) (pathParts path)

def hasPath (tree : FileTree) (directory : Location) (path : String) : Bool :=
  match tree.locate directory path with
  | .ok location => tree.has location
  | .error _ => false

def readAt (tree : FileTree) (location : Location) : Except FileError String :=
  match tree.node? location with
  | some (.file content) => textOf content
  | some .directory => .error .isDirectory
  | none => .error .missing

def read (tree : FileTree) (directory : Location) (path : String) : Except FileError String :=
  (tree.locate directory path).bind tree.readAt

/-- The location of the file that a path is written to. The file may be new, but the directory that
it lies in may not. -/
def locateFile (tree : FileTree) (directory : Location) (path : String) :
    Except FileError Location :=
  match tree.walk (pathStart directory path) (pathParts (withoutEndSlashes path)) with
  | .ok location =>
    if meansDirectory path ∨ tree.node? location = some .directory then .error .isDirectory
    else .ok location
  | .error e => .error e

def put (tree : FileTree) (location : Location) (content : List UInt8) : FileTree :=
  ⟨(location, .file content) :: tree.entries.filter (·.1 ≠ location)⟩

theorem node?_put (tree : FileTree) {location : Location} (content : List UInt8)
    (h : location ≠ []) : (tree.put location content).node? location = some (.file content) := by
  simp [node?, put, h]

theorem readAt_put (tree : FileTree) {location : Location} (text : String)
    (h : location ≠ []) : (tree.put location (bytes text)).readAt location = .ok text := by
  simp [readAt, node?_put _ _ h, textOf, textOfBytes?_bytes]

end FileTree

end DiagramDoc
