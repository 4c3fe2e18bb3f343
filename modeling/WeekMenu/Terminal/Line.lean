import WeekMenu.Terminal.Canvas
import WeekMenu.Text.Width

/-!
This module contains lines of styled text and how one is drawn. A line that is too long is cut off
at the side from which it is not aligned.
-/

namespace WeekMenu

structure Span where
  text : String
  style : Style
  deriving DecidableEq, Repr, Inhabited

structure Glyph where
  symbol : String
  width : Nat
  style : Style
  deriving DecidableEq, Repr, Inhabited

namespace Span

def raw (text : String) : Span := ⟨text, .plain⟩

def width (s : Span) : Nat := Text.width s.text.toList

def glyphs (s : Span) : List Glyph :=
  ((Text.clusters s.text.toList).filter (· != ['\n'])).map fun cluster =>
    ⟨String.ofList cluster, Text.clusterWidth cluster, s.style⟩

def takeEnd (columns : Nat) (s : Span) : Span :=
  { s with text := String.ofList (go columns [] (Text.clusters s.text.toList).reverse) }
where
  go (columns : Nat) (kept : List Char) : List (List Char) → List Char
    | [] => kept
    | cluster :: rest =>
      let width := Text.clusterWidth cluster
      if width ≤ columns then go (columns - width) (cluster ++ kept) rest else kept

end Span

abbrev Line := List Span

inductive Alignment where
  | left
  | center
  | right
  deriving DecidableEq, Repr, Inhabited

def Alignment.share (spare : Nat) : Alignment → Nat
  | .left => 0
  | .center => spare / 2
  | .right => spare

namespace Line

def width (line : Line) : Nat :=
  line.foldl (fun n s => n + s.width) 0

def glyphs (line : Line) : List Glyph :=
  line.flatMap Span.glyphs

/--
What is left of a line without its first `skip` columns. Each span comes with the number of columns
to leave blank before it, because a wide glyph is never shown in part.
-/
def dropColumns (skip : Nat) : Line → List (Nat × Span)
  | [] => []
  | s :: rest =>
    if s.width ≤ skip then
      dropColumns (skip - s.width) rest
    else
      let room := s.width - skip
      let kept := s.takeEnd room
      (room - kept.width, kept) :: dropColumns 0 rest

end Line

namespace Canvas

/--
Draw the glyphs after the first one from a column `x` on, up to the column `stop`. Marks without a
width go with the glyph before them, which began at `start` if `x` has not moved on since.
-/
def drawRest (start stop y x : Nat) (c : Canvas) : List Glyph → Canvas
  | [] => c
  | g :: rest =>
    let next := x + g.width
    if stop < next then
      c
    else
      let c :=
        if x = start then c.change (.append g.symbol g.style) x y
        else if g.width = 0 then c.change (.append g.symbol g.style) (x - 1) y
        else c.change (.write g.symbol g.style) x y
      (c.changeRow (fun _ => .blank) (x + 1) next y).drawRest start stop y next rest

def drawSpan (s : Span) (row : Rect) (c : Canvas) : Canvas :=
  match s.glyphs with
  | [] => c
  | g :: rest =>
    let next := row.x + g.width
    if row.right < next then
      c
    else
      let c := c.change (.write g.symbol g.style) row.x row.y
      let c := c.changeRow (fun _ => .blank) (row.x + 1) next row.y
      c.drawRest row.x row.right row.y next rest

def drawSpans (row : Rect) (c : Canvas) : List (Nat × Span) → Canvas
  | [] => c
  | (offset, s) :: rest =>
    let row := row.indent offset
    if row.isEmpty then c else (c.drawSpan s row).drawSpans (row.indent s.width) rest

def drawLine (line : Line) (alignment : Alignment) (r : Rect) (c : Canvas) : Canvas :=
  let row := { r.meet c.area with height := min (r.meet c.area).height 1 }
  let width := Line.width line
  let indented := row.indent (alignment.share (row.width - width))
  if row.isEmpty || width == 0 then c
  else c.drawSpans indented (Line.dropColumns (alignment.share (width - row.width)) line)

def drawLines (lines : List Line) (r : Rect) (c : Canvas) : Canvas :=
  ((lines.take r.height).zipIdx).foldl
    (fun c (line, i) => c.drawLine line .left { r with y := r.y + i, height := 1 }) c

end Canvas
end WeekMenu
