import DiagramDoc.Text.Lines

/-! # Locations and paths

A location names a place under the root of the file system. Its names stand from the innermost
directory outwards, so that the directory around a location is the tail of the list and the
directories around it, nearest first, are its tails.

A path is what a user writes for a location: names between slashes, taken from the root if the path
starts with a slash and from the working directory otherwise.
-/

namespace DiagramDoc

open Text

abbrev Location := List String

namespace Location

def parent (location : Location) : Location := location.tail

def around : Location → List Location
  | [] => [[]]
  | name :: outer => (name :: outer) :: around outer

def path : Location → String
  | [] => "/"
  | names => names.foldr (fun name path => path ++ "/" ++ name) ""

end Location

def pathParts (path : String) : List String :=
  (splitAt (· == '/') path.toList).map String.ofList

def isAbsolute (path : String) : Bool := path.toList.head? = some '/'

def meansDirectory (path : String) : Bool := path.toList.getLast? = some '/'

def withoutEndSlashes (path : String) : String :=
  String.ofList (dropEndWhile (· == '/') path.toList)

def pathStart (directory : Location) (path : String) : Location :=
  if isAbsolute path then [] else directory

def isIdlePart (part : String) : Bool := part = "" || part = "."

def Location.follow (location : Location) (part : String) : Location :=
  if isIdlePart part then location
  else if part = ".." then location.parent
  else part :: location

def pathTrail (directory : Location) (path : String) : List Location :=
  trailFrom (pathStart directory path) (pathParts path)
where
  trailFrom (location : Location) : List String → List Location
    | [] => [location]
    | part :: parts => location :: trailFrom (location.follow part) parts

def fileName? (path : String) : Option String :=
  match ((pathParts path).filter fun part => !isIdlePart part).getLast? with
  | some ".." => none
  | name => name

/-- A name without its extension: without the last dot and what follows, unless nothing stands in
front of that dot. -/
def stem (name : String) : String :=
  match dropEndWhile (· != '.') name.toList with
  | [] => name
  | [_] => name
  | withDot => String.ofList withDot.dropLast

end DiagramDoc
