import WeekMenu.Terminal.Wrap

/-!
This module contains paragraphs: several lines that are drawn into a rectangle.
-/

namespace WeekMenu

inductive Flow where
  | cut (skip : Nat)
  | wrap (trim : Bool)
  deriving DecidableEq, Repr, Inhabited

structure Paragraph where
  lines : List Line
  alignment : Alignment
  flow : Flow
  skip : Nat
  deriving Repr, Inhabited

namespace Paragraph

def ofLine (line : Line) : Paragraph := ⟨[line], .left, .cut 0, 0⟩

def rows (p : Paragraph) (columns : Nat) : List (List Glyph) :=
  match p.flow with
  | .cut skip => p.lines.map fun line => Glyph.cut columns skip line.glyphs
  | .wrap trim => p.lines.flatMap fun line => Glyph.wrap columns trim line.glyphs

def offset (alignment : Alignment) (columns width : Nat) : Nat :=
  match alignment with
  | .left => 0
  | .center => columns / 2 - width / 2
  | .right => columns - width

end Paragraph

namespace Canvas

def drawGlyphs (x y : Nat) (c : Canvas) : List Glyph → Canvas
  | [] => c
  | g :: rest =>
    if g.width = 0 then c.drawGlyphs x y rest
    else (c.change (.write g.symbol g.style) x y).drawGlyphs (x + g.width) y rest

def drawParagraph (p : Paragraph) (r : Rect) (c : Canvas) : Canvas :=
  let r := r.meet c.area
  if r.isEmpty then
    c
  else
    (((p.rows r.width).drop p.skip).take r.height).zipIdx.foldl
      (fun c (row, i) =>
        c.drawGlyphs (r.x + Paragraph.offset p.alignment r.width (Glyph.total row)) (r.y + i) row)
      c

end Canvas
end WeekMenu
