import DiagramDoc.Document.Event

/-! # Emphasis

Runs of asterisks, underscores and tildes are paired from left to right: a run that can close looks
for the nearest run before it that can open and goes with it. What stands between the two becomes
emphasis, and runs that are left over become text. Pairs are formed inside out, so the events of a
text always nest.
-/

namespace DiagramDoc.Markdown

structure Run where
  mark : Char
  count : Nat
  length : Nat
  canOpen : Bool
  canClose : Bool
  trail : List Char
  deriving DecidableEq, Repr

/-- A piece of a text: finished events, a run of marks, or a line break behind a backslash. -/
inductive Piece where
  | events (events : List Event)
  | run (run : Run)
  | slashBreak
  deriving DecidableEq, Repr

namespace Run

/-- Whether two runs may go together. Tildes pair with as many tildes. Runs that can do both do not
pair when their lengths add up to a multiple of three, unless both lengths are multiples of three.
-/
def pairs (opener closer : Run) : Bool :=
  opener.mark == closer.mark &&
    if closer.mark = '~' && opener.length != closer.length then false
    else
      !((opener.canOpen && opener.canClose) || (closer.canOpen && closer.canClose)) ||
        (opener.length + closer.length) % 3 != 0 || closer.length % 3 == 0

def leftover (r : Run) : List Event :=
  if r.count = 0 then [] else [.text (String.ofList (.replicate r.count r.mark ++ r.trail))]

/-- The emphasis that `n` marks of a pair stand for, the outermost first: pairs of marks inside,
a single mark around them. -/
def tags (mark : Char) (n : Nat) : List (Tag × TagEnd) :=
  if mark = '~' then .replicate ((n + 1) / 2) (.strikethrough, .strikethrough)
  else
    (if n % 2 = 1 then [(.emphasis, .emphasis)] else []) ++
      .replicate (n / 2) (.strong, .strong)

end Run

structure OpenRun where
  run : Run
  groups : List (List Event)
  deriving DecidableEq, Repr

def OpenRun.content (o : OpenRun) : List Event := o.groups.reverse.flatten

/-- The state of the pairing: the events in front of all open runs, in groups, the last group first,
and the open runs, the nearest first. -/
structure Pairing where
  base : List (List Event)
  opened : List OpenRun
  /-- The number of open runs, the farthest first, that tildes no longer look at: a run of
  tildes that has looked in vain hides the runs before it from all later tildes. -/
  hidden : Nat
  deriving DecidableEq, Repr

namespace Pairing

def add (p : Pairing) (events : List Event) : Pairing :=
  match p.opened with
  | [] => { p with base := events :: p.base }
  | o :: rest => { p with opened := ⟨o.run, events :: o.groups⟩ :: rest }

def push (p : Pairing) (run : Run) (groups : List (List Event)) : Pairing :=
  { p with opened := ⟨run, groups⟩ :: p.opened }

def giveUp (events : List Event) : List OpenRun → List Event
  | [] => events
  | o :: rest => giveUp (o.run.leftover ++ o.content ++ events) rest

def visible (p : Pairing) (closer : Run) : List OpenRun :=
  if closer.mark = '~' then p.opened.take (p.opened.length - p.hidden) else p.opened

/-- Pairs a closing run as long as there is a run to go with it; `fuel` bounds the number of
pairs. The marks that are left of the closing run come back. -/
def close : Nat → Pairing → Run → Pairing × Run
  | 0, p, closer => (p, closer)
  | fuel + 1, p, closer =>
    if closer.count = 0 then (p, closer)
    else
      let visible := p.visible closer
      let skipped := visible.takeWhile fun o => !o.run.pairs closer
      match visible.drop skipped.length with
      | [] =>
        (if closer.mark = '~' then { p with hidden := p.opened.length } else p, closer)
      | o :: _ =>
        let rest := p.opened.drop (skipped.length + 1)
        let n := min closer.count o.run.count
        let tags := Run.tags closer.mark n
        let wrapped := tags.map (fun t => Event.enter t.1) ++ o.content ++
          giveUp [] skipped ++ (tags.map fun t => Event.leave t.2).reverse
        let left : Run := { o.run with count := o.run.count - n }
        let p : Pairing := ⟨p.base, rest, min p.hidden rest.length⟩
        let p := if left.count = 0 then p.add wrapped else p.push left [wrapped]
        close fuel p { closer with count := closer.count - n }

def step (p : Pairing) : Piece → Pairing
  | .events events => p.add events
  | .slashBreak => p.add [.hardBreak]
  | .run r =>
    let (p, r) := if r.canClose then close (r.count + 1) p r else (p, r)
    if r.count = 0 then p
    else if r.canOpen then p.push r []
    else p.add r.leftover

end Pairing

def pairRuns (pieces : List Piece) : List Event :=
  let p := pieces.foldl Pairing.step ⟨[], [], 0⟩
  p.base.reverse.flatten ++ Pairing.giveUp [] p.opened

/-- The events of a text that may hold emphasis: if it has been looked at for marks, a backslash at
its end is no line break. -/
def chainEvents (looked : Bool) (pieces : List Piece) : List Event :=
  match pieces.getLast? with
  | some .slashBreak =>
    if looked then pairRuns (pieces.dropLast ++ [.events [.text "\\"]]) else pairRuns pieces
  | _ => pairRuns pieces

end DiagramDoc.Markdown
