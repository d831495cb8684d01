/-! # TOML values

The value of a TOML document is a table. While a document is read, a table remembers how it came to
be, because a table may be opened only once: by its own header, by dotted keys, or, for the time
being, only as the parent of another table.
-/

namespace DiagramDoc.Toml

/-- A value. Numbers and times are checked when they are read; of a time nothing more is kept, and of
a number whether it can be stored. -/
inductive Value where
  | string (s : String)
  | boolean (b : Bool)
  | number (storable : Bool)
  | time
  | array (items : List Value)
  | table (entries : List (String × Value))

mutual

def Value.isStorable : Value → Bool
  | .number storable => storable
  | .array items => allStorable items
  | .table entries => allEntriesStorable entries
  | _ => true

def allStorable : List Value → Bool
  | [] => true
  | v :: rest => v.isStorable && allStorable rest

def allEntriesStorable : List (String × Value) → Bool
  | [] => true
  | (_, v) :: rest => v.isStorable && allEntriesStorable rest

end

inductive Origin where
  | implied
  | header
  | dotted
  deriving DecidableEq, Repr

inductive Node where
  | value (v : Value)
  | table (origin : Origin) (entries : List (String × Node))
  | tables (members : List (List (String × Node)))

abbrev Entries := List (String × Node)

namespace Entries

def update? (key : String) (f : Option Node → Option Node) : Entries → Option Entries
  | [] => (f none).map fun n => [(key, n)]
  | (k, n) :: rest =>
    if k = key then (f (some n)).map fun n => (k, n) :: rest
    else (update? key f rest).map ((k, n) :: ·)

/-- Changes the table at the end of a path of keys. Tables on the way come into being, by `origin`;
a dotted key does not enter a table with a header, nor one of several tables. -/
def within? (origin : Origin) (f : Entries → Option Entries) : List String → Entries → Option Entries
  | [], entries => f entries
  | key :: path, entries => entries.update? key fun
    | none => (within? origin f path []).map (Node.table origin)
    | some (.table o inner) =>
      if origin = .dotted ∧ o = .header then none
      else (within? origin f path inner).map (Node.table o)
    | some (.tables (last :: before)) =>
      if origin = .dotted then none
      else (within? origin f path last).map fun last => Node.tables (last :: before)
    | _ => none

def openTable? (path : List String) (key : String) (entries : Entries) : Option Entries :=
  within? .implied (update? key fun
    | none => some (.table .header [])
    | some (.table .implied inner) => some (.table .header inner)
    | _ => none) path entries

def openMember? (path : List String) (key : String) (entries : Entries) : Option Entries :=
  within? .implied (update? key fun
    | none => some (.tables [[]])
    | some (.tables members) => some (.tables ([] :: members))
    | _ => none) path entries

def assign? (path : List String) (key : String) (v : Value) (entries : Entries) : Option Entries :=
  within? .dotted (update? key fun
    | none => some (.value v)
    | some _ => none) path entries

end Entries

mutual

def Node.toValue : Node → Value
  | .value v => v
  | .table _ entries => .table (entriesValue entries)
  | .tables members => .array (membersValue members [])

def entriesValue : List (String × Node) → List (String × Value)
  | [] => []
  | (key, node) :: rest => (key, node.toValue) :: entriesValue rest

/-- The values of several tables, which stand there last first, in front of `after`. -/
def membersValue : List (List (String × Node)) → List Value → List Value
  | [], after => after
  | member :: rest, after => membersValue rest (.table (entriesValue member) :: after)

end

end DiagramDoc.Toml
