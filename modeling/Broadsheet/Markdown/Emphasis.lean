import Broadsheet.Document.Event
import Broadsheet.Text.Blank
import Broadsheet.Text.Category

/-!
# Broadsheet.Markdown.Emphasis

Runs of `*`, `_` and `~` that open and close emphasis.

Whether a run can open or close depends on the characters around it.  A run
that can close is matched with the latest run of its character that can open;
runs between the two are text.  What two runs have in common is used from the
inside out: pairs of marks are strong, a single one is emphasis.  Runs of `~`
match only when they are of the same length; one that could close but matches
no run leaves none of them open.
-/

namespace Broadsheet.Markdown

/-! ## Runs -/

/-- A run of one mark. -/
structure MarkRun where
  mark : Char
  length : Nat
  opens : Bool
  closes : Bool
  deriving DecidableEq

namespace MarkRun

/-- Whether a run may stand inside a word: runs of `*`, and of two or more `~`. -/
def inWord (mark : Char) (length : Nat) : Bool := mark == '*' || (mark == '~' && 1 < length)

/-- Whether a character is punctuation, white space or missing. -/
def isBoundary (c : Option Char) : Bool := c.all fun c => isBlank c || isPunctuation c

/-- Whether a character is white space or missing. -/
def isGapOrEnd (c : Option Char) : Bool := c.all isBlank

/-- The run between two characters, either of which may be missing. -/
def between (before : Option Char) (mark : Char) (length : Nat) (next : Option Char) : MarkRun where
  mark := mark
  length := length
  opens := !isGapOrEnd next &&
    ((inWord mark length && !isBoundary next) || isBoundary before)
  closes := !isGapOrEnd before &&
    ((inWord mark length && !isBoundary before) || isBoundary next)

/-- Whether a run is good for anything but text. -/
def isMark (r : MarkRun) : Bool := (r.opens || r.closes) && (r.mark != '~' || r.length ≤ 2)

/-- Whether a run both opens and closes. -/
def both (r : MarkRun) : Bool := r.opens && r.closes

/-- Whether `opener` may be closed by `r`.  If either could do both, the sum of the lengths is no
multiple of three, unless both lengths are. -/
def matchedBy (opener r : MarkRun) : Bool :=
  opener.mark == r.mark && (r.mark != '~' || opener.length == r.length) &&
    ((!r.both && !opener.both) || (opener.length + r.length) % 3 != 0 || r.length % 3 == 0)

/-- The text of so many marks. -/
def text (r : MarkRun) (n : Nat) : Event := .text (String.ofList (List.replicate n r.mark))

end MarkRun

/-! ## Matching -/

/-- A piece of a paragraph whose emphasis has not been settled. -/
inductive Piece
  | event (e : Event)
  | run (r : MarkRun)
  /-- A line's end after a backslash. -/
  | escapedBreak
  deriving DecidableEq

/-- A run that waits to be closed, and the events after it, latest first. -/
structure Opener where
  run : MarkRun
  /-- How many of its marks are unused. -/
  left : Nat
  inner : List Event

/-- A paragraph up to some place: the events before the first open run, and the open runs, both
latest first. -/
structure EmphasisState where
  settled : List Event
  openers : List Opener

namespace EmphasisState

/-- Adds events, latest first. -/
def add (es : List Event) (s : EmphasisState) : EmphasisState :=
  match s.openers with
  | [] => { s with settled := es ++ s.settled }
  | o :: os => { s with openers := { o with inner := es ++ o.inner } :: os }

/-- The latest opener that `r` closes, with what stands after it and the openers before it.
Openers in between become text. -/
def findOpener? (r : MarkRun) : List Opener → Option (List Event × Opener × List Opener)
  | [] => none
  | o :: os =>
    if o.run.matchedBy r then some (o.inner, o, os)
    else (findOpener? r os).map fun (inner, found, others) =>
      (o.inner ++ o.run.text o.left :: inner, found, others)

/-- The tags that `n` pairs of marks stand for, outermost first. -/
def tags (mark : Char) (n : Nat) : List Tag :=
  if mark == '~' then [.strikethrough]
  else (if n % 2 == 1 then [.emphasis] else []) ++ List.replicate (n / 2) .strong

/-- Wraps events, latest first, in tags. -/
def wrap (ts : List Tag) (inner : List Event) : List Event :=
  ts.map (fun t => .closing t.toEnd) ++ inner ++ ts.reverse.map .opening

/-- Makes open runs of `~` text. -/
def dropTildes (s : EmphasisState) : EmphasisState :=
  s.openers.foldr (fun o s =>
    if o.run.mark == '~' then add (o.inner ++ [o.run.text o.left]) s
    else { s with openers := o :: s.openers }) { s with openers := [] }

/-- Closes runs with the marks of `r`, of which `n` are unused, and says how many are left.  Each
match uses at least one mark, so that `fuel` need not exceed their number. -/
def close (r : MarkRun) : (fuel n : Nat) → EmphasisState → Nat × EmphasisState
  | 0, n, s => (n, s)
  | fuel + 1, n, s =>
    match n, findOpener? r s.openers with
    | 0, _ => (0, s)
    | _, none => (n, if r.mark == '~' then s.dropTildes else s)
    | _, some (inner, o, others) =>
      let used := min n o.left
      let wrapped := wrap (tags r.mark used) inner
      let s :=
        if used < o.left then
          { s with openers := { o with left := o.left - used, inner := wrapped } :: others }
        else add wrapped { s with openers := others }
      close r fuel (n - used) s

/-- The state after a run. -/
def addRun (r : MarkRun) (s : EmphasisState) : EmphasisState :=
  let (n, s) := if r.closes then close r r.length r.length s else (r.length, s)
  if n = 0 then s
  else if r.opens then { s with openers := ⟨r, n, []⟩ :: s.openers }
  else add [r.text n] s

/-- Everything read so far, latest first, with open runs as text. -/
def events (s : EmphasisState) : List Event :=
  s.openers.foldr (fun o es => o.inner ++ o.run.text o.left :: es) s.settled

/-- The state after pieces.  A line's end after a backslash is a break, but for the last piece:
there it is the backslash. -/
def addAll : List Piece → EmphasisState → EmphasisState
  | [], s => s
  | [.escapedBreak], s => add [.text "\\"] s
  | .escapedBreak :: ps, s => addAll ps (add [.hardBreak] s)
  | .event e :: ps, s => addAll ps (add [e] s)
  | .run r :: ps, s => addAll ps (addRun r s)

end EmphasisState

/-- Settles the emphasis of pieces that stand side by side; the events are latest first. -/
def settle (ps : List Piece) : List Event := (EmphasisState.addAll ps ⟨[], []⟩).events

end Broadsheet.Markdown
