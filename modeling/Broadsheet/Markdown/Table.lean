import Broadsheet.Document.Event
import Broadsheet.Markdown.Line

/-!
# Broadsheet.Markdown.Table

The rows of tables.  The second line of a table, the delimiter row, settles
the number of columns: the line above it must have as many, and rows below are
cut or filled to that number.
-/

namespace Broadsheet.Markdown

/-! ## The delimiter row -/

/-- What has been read of a column of the delimiter row. -/
structure ColumnMark where
  alignment : Alignment
  /-- Whether nothing has been read yet. -/
  fresh : Bool
  /-- Whether a hyphen has been read. -/
  hyphen : Bool

namespace ColumnMark

/-- The column before its first character. -/
def empty : ColumnMark := ⟨.none, true, false⟩

/-- The column after a colon. -/
def colon (c : ColumnMark) : ColumnMark :=
  { c with
    fresh := false
    alignment := match c.fresh, c.alignment with
      | true, .none => .left
      | false, .left => .center
      | false, .none => .right
      | _, a => a }

end ColumnMark

/-- Reads columns up to the end of the line, within the given one. -/
def readColumns : ColumnMark → List Char → Option (List Alignment)
  | col, [] => if col.fresh then some [] else if col.hyphen then some [col.alignment] else none
  | col, ' ' :: s => readColumns col s
  | col, ':' :: s => readColumns col.colon s
  | col, '-' :: s => readColumns { col with fresh := false, hyphen := true } s
  | col, '|' :: s =>
    if col.hyphen then (readColumns .empty s).map (col.alignment :: ·) else none
  | _, _ => none

/-- Reads a delimiter row: columns of hyphens, with a colon at either end to align them, and at
least one bar. -/
def delimiterRow? (c : LineCursor) : Option (List Alignment) :=
  match (LineCursor.start c.rest).take 4 with
  | (0, _) => none
  | (_, d) =>
    if d.rest.contains '|' then
      readColumns .empty (match d.rest with
        | '|' :: s => s
        | s => s)
    else none

/-! ## Cells -/

/-- The positions in a text that a bar stands on, but for those after a backslash. -/
def barPositions : (position : Nat) → List Char → List Nat
  | _, [] => []
  | i, '\\' :: _ :: s => barPositions (i + 2) s
  | i, c :: s => if c == '|' then i :: barPositions (i + 1) s else barPositions (i + 1) s

/-- The number of columns in the line above a delimiter row, which has at least one bar. -/
def headerColumns? (s : List Char) : Option Nat :=
  let bars := barPositions 0 s
  match bars.getLast? with
  | none => none
  | some last =>
    let leading := if (skipSpacing s).head? = some '|' then 1 else 0
    let trailing := if blankRest (s.drop (last + 1)) then 0 else 1
    some (bars.length - leading + trailing)

/-- Cuts a row at its bars.  A bar after a backslash is text, and the backslash goes. -/
def splitBars : List Char → List (List Char)
  | [] => [[]]
  | c :: s =>
    if c == '|' then [] :: splitBars s
    else match splitBars s with
      | [] => [[c]]
      | piece :: pieces =>
        if c == '\\' && piece.isEmpty && s.head? = some '|' then
          match pieces with
          | [] => [[c]]
          | next :: others => ('|' :: next) :: others
        else (c :: piece) :: pieces

/-- The cells of a row: what stands between bars, with a first and a last bar left out. -/
def rowCells (s : List Char) : List (List Char) :=
  let cells := (splitBars s).map fun cell => trimSpacing (skipSpacing cell)
  let cells := match s, cells with
    | '|' :: _, _ :: rest => rest
    | _, cells => cells
  if cells.getLast? = some [] then cells.dropLast else cells

/-- A row with exactly `n` cells. -/
def fitCells (n : Nat) (cells : List (List Char)) : List (List Char) :=
  (cells ++ List.replicate (n - cells.length) []).take n

theorem length_fitCells (n : Nat) (cells : List (List Char)) : (fitCells n cells).length = n := by
  simp [fitCells]
  omega

end Broadsheet.Markdown
