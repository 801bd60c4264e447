/-
  Text on rows of cells.

  A text is drawn by its clusters.  A cluster takes the columns that it is wide;
  its symbol goes into the first of them.  Clusters of no width are not drawn in
  a paragraph, and join the symbol before them in a heading.

  * `Piece` is a cluster with its style, `piecesOf` the pieces of a text;
  * `visible` are the pieces of a row that a window shows, `spread` gives each
    its columns, and `paragraph` draws rows in a rectangle;
  * `headingLeft` and `headingRight` draw one line, in which the covered columns are
    emptied, at an end of the given columns.
-/
import Runpad.Screen.Canvas
import Runpad.Text.Cluster
import Runpad.Text.Lines

namespace Runpad

/-- A cluster and how it is drawn. -/
structure Piece where
  symbol : Text
  style : Style := {}
  deriving DecidableEq, Repr

/-- The columns of a piece. -/
def Piece.columns (p : Piece) : Nat :=
  Text.columns p.symbol

/-- The clusters that can be drawn: all but line feeds. -/
def drawable (t : Text) : List Text :=
  (Text.clusters t).filter (· ≠ ['\n'])

/-- The pieces of a text in one style. -/
def piecesOf (style : Style) (t : Text) : List Piece :=
  (drawable t).map fun symbol => ⟨symbol, style⟩

/-! ## Paragraphs -/

/-- The pieces of a row that are seen through a window with `room` columns, of
    which `used` are taken, when `skip` columns lie before the window.  A piece
    that only begins before the window is shown whole, and the pieces before it
    take no room; what is wider than the window is left out. -/
def visible (room : Nat) (used skip : Nat) : List Piece → List Piece
  | [] => []
  | p :: rest =>
    if room < p.columns then visible room used skip rest
    else if room < used + p.columns then []
    else if 0 < skip ∧ p.columns ≤ skip then visible room used (skip - p.columns) rest
    else p :: visible room (used + p.columns) 0 rest

/-- The marks of pieces, each on as many columns as it is wide. -/
def spread (pieces : List Piece) : List Mark :=
  pieces.flatMap fun p =>
    match p.columns with
    | 0 => []
    | covered + 1 => .put p.symbol p.style :: List.replicate covered .keep

/-- Draws rows of pieces in a rectangle, as they are seen from column `skip`
    on. -/
def paragraph (area : Rect) (skip : Nat) (rows : List (List Piece)) : Stroke :=
  .write ⟨area.x, area.y⟩
    ((rows.take area.height).map fun row => spread (visible area.width 0 skip row))

/-- Draws a row of pieces in the middle of the first row of a rectangle. -/
def centredLine (area : Rect) (row : List Piece) : Stroke :=
  let shown := visible area.width 0 0 row
  let width := Text.totalColumns (shown.map Piece.symbol)
  .write ⟨area.x + (area.width / 2 - width / 2), area.y⟩
    (([spread shown] : List (List Mark)).take area.height)

/-! ## Headings -/

/-- Adds a cluster of no width to the last mark made. -/
def Mark.join (cluster : Text) : Mark → Mark
  | .put symbol style => .put (symbol ++ cluster) style
  | .keep | .erase => .put (' ' :: cluster) {}

/-- The marks of a line in a heading, after those of `done`, the last one first.
    Clusters of no width at the start wait in `lead` for the next one.  The line
    ends where a cluster does not fit. -/
def lineMarks (room : Nat) (lead : Text) (done : List Mark) : List Text → List Mark
  | [] => finish
  | cluster :: rest =>
    let width := Text.columns cluster
    if room < done.length + width then finish
    else
      match done with
      | [] =>
        match width with
        | 0 => lineMarks room (lead ++ cluster) [] rest
        | covered + 1 =>
          lineMarks room []
            (List.replicate covered .erase ++ [.put (lead ++ cluster) {}]) rest
      | last :: before =>
        match width with
        | 0 => lineMarks room [] (last.join cluster :: before) rest
        | covered + 1 =>
          lineMarks room []
            (List.replicate covered .erase ++ .put cluster {} :: last :: before) rest
where
  /-- All marks, or the waiting clusters if there is nothing else. -/
  finish : List Mark :=
    match done with
    | [] => if lead = [] then [] else [.put lead {}]
    | _ :: _ => done.reverse

/-- The strokes of the lines of a heading, one after the other in a row. -/
def lineStrokes (start : Place) (room : Nat) : List Text → List Stroke
  | [] => []
  | line :: rest =>
    let width := Text.columns line
    if width = 0 then lineStrokes start room rest
    else if room = 0 then []
    else
      .write start [lineMarks room [] [] (drawable line)] ::
        lineStrokes ⟨start.x + width, start.y⟩ (room - width) rest

/-- The columns between the sides of a frame, at a given row of it. -/
def between (area : Rect) (row : Nat) : Rect :=
  ⟨area.x + 1, row, area.width - 2, min 1 area.height⟩

/-- A heading at the left end of the given columns. -/
def headingLeft (style : Style) (area : Rect) (heading : Text) : List Stroke :=
  let lines := Text.shown heading
  let room := min (Text.totalColumns lines) area.width
  if area.isEmpty then []
  else .restyle { area with width := room } style :: lineStrokes ⟨area.x, area.y⟩ room lines

/-- A heading at the right end of the given columns, of one-column characters;
    where there is no room for all, its end is shown. -/
def headingRight (style : Style) (area : Rect) (heading : Text) : List Stroke :=
  let room := min heading.length area.width
  let x := area.x + (area.width - room)
  if area.isEmpty then []
  else .restyle ⟨x, area.y, room, 1⟩ style ::
    lineStrokes ⟨x, area.y⟩ room [heading.drop (heading.length - room)]

end Runpad
