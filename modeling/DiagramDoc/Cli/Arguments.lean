/-! # Arguments of a command

A command takes an operand and options. An option has a name behind two dashes and perhaps a letter
behind one dash; letters may share a dash. An option's value stands behind an equals sign, behind
the letter, or in the next argument, which must not look like an option. Behind an argument of just
two dashes everything is an operand. No option may be given twice. Arguments are read from left to
right: the first one that is wrong makes all of them wrong, and nothing is read behind the option
that asks for help.
-/

namespace DiagramDoc.Cli

inductive ValueForm where
  | text
  | path
  | oneOf (names : List String)
  deriving DecidableEq, Repr

def ValueForm.accepts (value : String) : ValueForm → Bool
  | text => true
  | path => value ≠ ""
  | oneOf names => names.contains value

structure OptionForm where
  name : String
  letter : Option Char
  value : Option ValueForm
  deriving DecidableEq, Repr

structure Arguments where
  options : List (String × String)
  operand : Option String
  deriving DecidableEq, Repr

def helpForm : OptionForm := ⟨"help", some 'h', none⟩

namespace Arguments

def empty : Arguments := ⟨[], none⟩

def has (a : Arguments) (name : String) : Bool := a.options.any (·.1 = name)

def asksForHelp (a : Arguments) : Bool := a.has helpForm.name

def value? (a : Arguments) (name : String) : Option String :=
  (a.options.find? (·.1 = name)).map (·.2)

def give? (a : Arguments) (form : OptionForm) (value : String) : Option Arguments :=
  if !a.has form.name && form.value.all (·.accepts value) then
    some { a with options := a.options ++ [(form.name, value)] }
  else none

def addOperand? (a : Arguments) (operand : String) : Option Arguments :=
  if a.operand.isNone && operand ≠ "" then some { a with operand := some operand } else none

end Arguments

inductive ArgumentKind where
  | endOfOptions
  | long (name : String) (value : Option String)
  | letters (letters : List Char)
  | plain
  deriving DecidableEq, Repr

def ArgumentKind.of (argument : String) : ArgumentKind :=
  match argument.toList with
  | ['-', '-'] => .endOfOptions
  | '-' :: '-' :: cs =>
    let name := String.ofList (cs.takeWhile (· != '='))
    match cs.dropWhile (· != '=') with
    | _ :: value => .long name (some (String.ofList value))
    | [] => .long name none
  | '-' :: c :: cs => .letters (c :: cs)
  | _ => .plain

/-- Letters read as options: what they give, and the option that still needs a value. -/
def readLetters? (forms : List OptionForm) (a : Arguments) :
    List Char → Option (Arguments × Option OptionForm)
  | [] => some (a, none)
  | c :: cs =>
    match forms.find? (·.letter = some c) with
    | none => none
    | some form =>
      match form.value, cs with
      | some _, [] => some (a, some form)
      | some _, '=' :: value => (a.give? form (String.ofList value)).map (·, none)
      | some _, value => (a.give? form (String.ofList value)).map (·, none)
      | none, cs =>
        match a.give? form "" with
        | none => none
        | some a => if a.asksForHelp then some (a, none) else readLetters? forms a cs

/-- An option by its name: what it gives, and the option that still needs a value. -/
def readLong? (forms : List OptionForm) (a : Arguments) (name : String) (value : Option String) :
    Option (Arguments × Option OptionForm) :=
  match forms.find? (·.name = name) with
  | none => none
  | some form =>
    match form.value, value with
    | some _, some value => (a.give? form value).map (·, none)
    | some _, none => some (a, some form)
    | none, none => (a.give? form "").map (·, none)
    | none, some _ => none

/-- Sorts arguments, of which `a` have been read and the last was the option `open?` that needs a
value. -/
def sortArguments? (forms : List OptionForm) (a : Arguments) (open? : Option OptionForm) :
    List String → Option Arguments
  | [] => if open?.isSome then none else some a
  | argument :: rest =>
    if a.asksForHelp then some a
    else match open?, ArgumentKind.of argument with
      | some form, .plain =>
        (a.give? form argument).bind fun a => sortArguments? forms a none rest
      | some _, _ => none
      | none, .plain => (a.addOperand? argument).bind fun a => sortArguments? forms a none rest
      | none, .endOfOptions => rest.foldlM Arguments.addOperand? a
      | none, .long name value =>
        (readLong? forms a name value).bind fun (a, open?) => sortArguments? forms a open? rest
      | none, .letters letters =>
        (readLetters? forms a letters).bind fun (a, open?) => sortArguments? forms a open? rest

end DiagramDoc.Cli
