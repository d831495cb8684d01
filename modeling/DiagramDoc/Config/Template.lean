import DiagramDoc.Text.Lines
import DiagramDoc.Unicode.Alphanumeric

/-! # Templates

A value of the configuration may refer to variables of the environment: as a name in braces behind
a dollar sign, with or without a fallback, or as a bare name. Reading a template cuts it into
characters and references; filling it puts values in their place. What is put in is never read
again. A value without a reference in braces is no template, and its dollar signs mean nothing.
-/

namespace DiagramDoc

open Unicode

abbrev Environment := List (String × String)

def Environment.value? (environment : Environment) (name : String) : Option String :=
  (environment.find? (·.1 = name)).map (·.2)

inductive TemplatePart where
  | literal (c : Char)
  | reference (name : String) (fallback : Option String)
  deriving DecidableEq, Repr

namespace TemplatePart

def inName (c : Char) : Bool := isAlphanumeric c || c == '_'

def cutFallback : List Char → Option (List Char × List Char)
  | [] => none
  | ':' :: '-' :: rest => some ([], rest)
  | c :: rest => (cutFallback rest).map fun (before, after) => (c :: before, after)

/-- The reference with these characters between its braces. A fallback needs a name in front of
it. -/
def ofBraces (inner : List Char) : TemplatePart :=
  match cutFallback inner with
  | some (c :: name, fallback) =>
    .reference (String.ofList (c :: name)) (some (String.ofList fallback))
  | _ => .reference (String.ofList inner) none

/-- Cuts a template into parts. Two dollar signs stand for one; a dollar sign in front of anything
but a name or a closed brace stands for itself. -/
def read : List Char → List TemplatePart
  | [] => []
  | '$' :: '$' :: rest => .literal '$' :: read rest
  | '$' :: '\x7b' :: rest =>
    if rest.contains '\x7d' then
      ofBraces (rest.takeWhile (· != '\x7d')) :: read ((rest.dropWhile (· != '\x7d')).drop 1)
    else .literal '$' :: .literal '\x7b' :: read rest
  | '$' :: c :: rest =>
    if inName c then
      .reference (String.ofList (c :: rest.takeWhile inName)) none :: read (rest.dropWhile inName)
    else .literal '$' :: read (c :: rest)
  | c :: rest => .literal c :: read rest
termination_by cs => cs.length
decreasing_by
  all_goals
    have hbrace := (List.dropWhile_suffix (l := rest) (· != '\x7d')).length_le
    have hname := (List.dropWhile_suffix (l := rest) inName).length_le
    simp only [List.length_cons, List.length_drop]
    omega

def fill (environment : Environment) : TemplatePart → Except String (List Char)
  | literal c => .ok [c]
  | reference name fallback =>
    match environment.value? name, fallback with
    | some value, _ => .ok value.toList
    | none, some fallback => .ok fallback.toList
    | none, none => .error name

def fillAll (environment : Environment) : List TemplatePart → Except String (List Char)
  | [] => .ok []
  | part :: parts =>
    match part.fill environment with
    | .error name => .error name
    | .ok cs => (fillAll environment parts).map (cs ++ ·)

end TemplatePart

def isTemplate : List Char → Bool
  | [] => false
  | c :: rest => (c == '$' && rest.head? == some '\x7b') || isTemplate rest

def expandValue (environment : Environment) (value : String) : Except String String :=
  if isTemplate value.toList then
    (TemplatePart.fillAll environment (TemplatePart.read value.toList)).map String.ofList
  else .ok value

def variablesOf (value : String) : List String :=
  if isTemplate value.toList then
    (TemplatePart.read value.toList).filterMap fun
      | .reference name _ => some name
      | .literal _ => none
  else []

end DiagramDoc
