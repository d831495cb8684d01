import DiagramDoc.Text.Lines

/-! # TOML strings, numbers and times

The parts of a TOML document that have no parts: strings in four kinds of quotes, and words that
are numbers or times. Reading fails where the document is not valid.
-/

namespace DiagramDoc.Toml

open Text

def isTomlBlank (c : Char) : Bool := c == ' ' || c == '\t'

def isControl (c : Char) : Bool := (c.toNat < 0x20 && c ≠ '\t') || c.toNat = 0x7F

def dropNewline? (cs : List Char) : Option (List Char) :=
  match cs with
  | '\n' :: rest => some rest
  | '\r' :: '\n' :: rest => some rest
  | _ => none

def hexDigit? (c : Char) : Option Nat :=
  if c.isDigit then some (c.toNat - 48)
  else if 'a' ≤ c ∧ c ≤ 'f' then some (c.toNat - 87)
  else if 'A' ≤ c ∧ c ≤ 'F' then some (c.toNat - 55)
  else none

def takeCode? (n : Nat) (cs : List Char) : Option (Char × List Char) := do
  let digits ← (cs.take n).mapM hexDigit?
  let code := digits.foldl (fun m d => m * 16 + d) 0
  if digits.length = n ∧ code.isValidChar then some (Char.ofNat code, cs.drop n) else none

def takeEscape? (cs : List Char) : Option (Char × List Char) :=
  match cs with
  | 'b' :: rest => some ('\x08', rest)
  | 't' :: rest => some ('\t', rest)
  | 'n' :: rest => some ('\n', rest)
  | 'f' :: rest => some ('\x0c', rest)
  | 'r' :: rest => some ('\r', rest)
  | 'e' :: rest => some ('\x1b', rest)
  | '"' :: rest => some ('"', rest)
  | '\\' :: rest => some ('\\', rest)
  | 'x' :: rest => takeCode? 2 rest
  | 'u' :: rest => takeCode? 4 rest
  | 'U' :: rest => takeCode? 8 rest
  | _ => none

/-- Reads a string on one line up to its quote; only a double-quoted one has escapes. -/
def takeLine? (quote : Char) : Nat → List Char → List Char → Option (String × List Char)
  | 0, _, _ => none
  | _, _, [] => none
  | fuel + 1, seen, c :: rest =>
    if c = quote then some (String.ofList seen.reverse, rest)
    else if c = '\\' ∧ quote = '"' then
      match takeEscape? rest with
      | some (e, rest) => takeLine? quote fuel (e :: seen) rest
      | none => none
    else if isControl c then none
    else takeLine? quote fuel (c :: seen) rest

/-- What follows a backslash at the end of a line: the next character that is neither a blank nor a
line break. -/
def dropContinuation? (cs : List Char) : Option (List Char) :=
  let rest := cs.dropWhile isTomlBlank
  match dropNewline? rest with
  | some rest => some (rest.dropWhile fun c => isTomlBlank c || c == '\n' || c == '\r')
  | none => none

/-- Reads a string over several lines up to three quotes; two more quotes may stand in front of
them. -/
def takeLines? (quote : Char) : Nat → List Char → List Char → Option (String × List Char)
  | 0, _, _ => none
  | _, _, [] => none
  | fuel + 1, seen, c :: rest =>
    if c = quote then
      let n := ((c :: rest).takeWhile (· == quote)).length
      if n < 3 then takeLines? quote fuel (c :: seen) rest
      else if n ≤ 5 then
        some (String.ofList ((List.replicate (n - 3) quote ++ seen).reverse), rest.drop (n - 1))
      else none
    else if c = '\\' ∧ quote = '"' then
      match takeEscape? rest with
      | some (e, rest) => takeLines? quote fuel (e :: seen) rest
      | none =>
        match dropContinuation? rest with
        | some rest => takeLines? quote fuel seen rest
        | none => none
    else match dropNewline? (c :: rest) with
      | some rest => takeLines? quote fuel ('\n' :: seen) rest
      | none => if isControl c then none else takeLines? quote fuel (c :: seen) rest

def takeString? (cs : List Char) : Option (String × List Char) :=
  match cs with
  | '"' :: '"' :: '"' :: rest =>
    takeLines? '"' (rest.length + 1) [] ((dropNewline? rest).getD rest)
  | '\'' :: '\'' :: '\'' :: rest =>
    takeLines? '\'' (rest.length + 1) [] ((dropNewline? rest).getD rest)
  | '"' :: rest => takeLine? '"' (rest.length + 1) [] rest
  | '\'' :: rest => takeLine? '\'' (rest.length + 1) [] rest
  | _ => none

/-! ### Numbers -/

def digits? (isDigit : Char → Bool) (cs : List Char) : Option (List Char) :=
  let parts := splitAt (· == '_') cs
  if parts.all fun part => part ≠ [] && part.all isDigit then some parts.flatten else none

def numberOf (base : Nat) (digits : List Char) : Nat :=
  digits.foldl (fun n c => n * base + (hexDigit? c).getD 0) 0

def splitSign (cs : List Char) : Bool × List Char :=
  match cs with
  | '+' :: rest => (false, rest)
  | '-' :: rest => (true, rest)
  | _ => (false, cs)

def decimalDigits? (cs : List Char) : Option (List Char) :=
  if cs.head? = some '0' ∧ cs.length ≠ 1 then none else digits? Char.isDigit cs

def integer? (cs : List Char) : Option Int :=
  let based (base : Nat) (digits : List Char) : Option Int :=
    let isDigit (c : Char) : Bool := (hexDigit? c).any (· < base)
    (digits? isDigit digits).map fun ds => Int.ofNat (numberOf base ds)
  match cs with
  | '0' :: 'x' :: rest => based 16 rest
  | '0' :: 'o' :: rest => based 8 rest
  | '0' :: 'b' :: rest => based 2 rest
  | _ =>
    let (negative, rest) := splitSign cs
    (decimalDigits? rest).map fun ds =>
      let n := Int.ofNat (numberOf 10 ds)
      if negative then -n else n

def isStorable (n : Int) : Bool :=
  match n with
  | .ofNat n => n < Nat.pow 2 128
  | .negSucc n => n < Nat.pow 2 127

/-- A number with a fraction or an exponent, without its sign: some digits times a power of ten. -/
structure Decimal where
  digits : List Char
  exponent : Int
  deriving DecidableEq, Repr

def decimal? (cs : List Char) : Option Decimal :=
  let isExp (c : Char) : Bool := c == 'e' || c == 'E'
  let mantissa := cs.takeWhile (!isExp ·)
  let whole := mantissa.takeWhile (· ≠ '.')
  match mantissa.drop whole.length, cs.drop mantissa.length with
  | [], [] => none
  | fraction, exponent => do
    let whole ← decimalDigits? (splitSign whole).2
    let fraction ← if fraction = [] then some [] else digits? Char.isDigit (fraction.drop 1)
    let (negative, power) := splitSign (exponent.drop 1)
    let power ← if exponent = [] then some [] else digits? Char.isDigit power
    let n := Int.ofNat (numberOf 10 power)
    some ⟨whole ++ fraction, (if negative then -n else n) - fraction.length⟩

/-- The least number that is rounded to infinity in binary floating point of 64 bits: half a unit
of the last place above the greatest finite one. -/
def overflowBound : Nat := Nat.pow 2 1024 - Nat.pow 2 970

/-- Whether a number is finite in floating point. Numbers below `10 ^ 308` are, and from `10 ^ 309`
on none is; in between the digits decide. -/
def Decimal.isFinite (d : Decimal) : Bool :=
  let digits := d.digits.dropWhile (· == '0')
  let size : Int := digits.length + d.exponent
  digits = [] || size ≤ 308 || (size = 309 &&
    numberOf 10 digits * Nat.pow 10 d.exponent.toNat <
      overflowBound * Nat.pow 10 (-d.exponent).toNat)

def isSpecialNumber (cs : List Char) : Bool :=
  (splitSign cs).2 = "inf".toList || (splitSign cs).2 = "nan".toList

/-! ### Times -/

def takeDigits? (n : Nat) (cs : List Char) : Option (Nat × List Char) :=
  let digits := cs.take n
  if digits.length = n ∧ digits.all Char.isDigit then
    some (digits.foldl (fun m c => m * 10 + (c.toNat - 48)) 0, cs.drop n)
  else none

def dropChar? (c : Char) (cs : List Char) : Option (List Char) :=
  match cs with
  | d :: rest => if d = c then some rest else none
  | [] => none

def daysIn (year month : Nat) : Nat :=
  if month = 2 then
    if year % 4 = 0 ∧ (year % 100 ≠ 0 ∨ year % 400 = 0) then 29 else 28
  else if month = 4 ∨ month = 6 ∨ month = 9 ∨ month = 11 then 30
  else 31

def dropDate? (cs : List Char) : Option (List Char) := do
  let (year, cs) ← takeDigits? 4 cs
  let cs ← dropChar? '-' cs
  let (month, cs) ← takeDigits? 2 cs
  let cs ← dropChar? '-' cs
  let (day, cs) ← takeDigits? 2 cs
  if 1 ≤ month ∧ month ≤ 12 ∧ 1 ≤ day ∧ day ≤ daysIn year month then some cs else none

def dropTimeOfDay? (cs : List Char) : Option (List Char) := do
  let (hour, cs) ← takeDigits? 2 cs
  let cs ← dropChar? ':' cs
  let (minute, cs) ← takeDigits? 2 cs
  if 24 ≤ hour ∨ 60 ≤ minute then none
  else match cs with
    | ':' :: cs => do
      let (second, cs) ← takeDigits? 2 cs
      if 60 < second then none
      else match cs with
        | '.' :: d :: rest => if d.isDigit then some (rest.dropWhile Char.isDigit) else none
        | _ => some cs
    | _ => some cs

def isOffset (cs : List Char) : Bool :=
  match cs with
  | [] => true
  | ['Z'] => true
  | ['z'] => true
  | c :: rest =>
    (c == '+' || c == '-') &&
      match takeDigits? 2 rest with
      | some (hour, ':' :: rest) =>
        match takeDigits? 2 rest with
        | some (minute, []) => hour < 24 && minute < 60
        | _ => false
      | _ => false

def isTime (cs : List Char) : Bool :=
  match dropDate? cs with
  | some [] => true
  | some (c :: rest) =>
    (c == 'T' || c == 't' || c == ' ') &&
      match dropTimeOfDay? rest with
      | some rest => isOffset rest
      | none => false
  | none => dropTimeOfDay? cs == some []

end DiagramDoc.Toml
