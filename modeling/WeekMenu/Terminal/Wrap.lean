import WeekMenu.Terminal.Line
import WeekMenu.Text.Blank

/-!
This module contains how a text is cut into the lines of a narrow place. Lines are broken where
there are blanks; only a word that is wider than a line is cut itself.
-/

namespace WeekMenu

namespace Glyph

def isGap (g : Glyph) : Bool :=
  g.symbol == "\u200b" || (g.symbol.toList.all Text.isBlank && g.symbol != "\u00a0")

def total (gs : List Glyph) : Nat :=
  gs.foldl (fun n g => n + g.width) 0

end Glyph

/--
A text while it is cut into lines. `finished` holds the lines so far, the latest first. `line` is
settled on the current line, and `gap` and `word` are the blanks and the letters read after it.
-/
structure Wrapping where
  finished : List (List Glyph)
  line : List Glyph
  gap : List Glyph
  word : List Glyph
  inWord : Bool
  deriving Repr, Inhabited

namespace Wrapping

def start : Wrapping := ⟨[], [], [], [], false⟩

def width (w : Wrapping) : Nat :=
  Glyph.total w.line + Glyph.total w.gap + Glyph.total w.word

def overflows (columns : Nat) (trim : Bool) (w : Wrapping) (g : Glyph) : Bool :=
  w.line.isEmpty &&
    if trim then
      columns < Glyph.total w.word + g.width || columns < Glyph.total w.gap + g.width
    else
      columns < Glyph.total w.word + Glyph.total w.gap + g.width

def settle (trim : Bool) (w : Wrapping) : Wrapping :=
  let gap := if w.line.isEmpty && trim then [] else w.gap
  { w with line := w.line ++ gap ++ w.word, gap := [], word := [] }

def dropFitting (columns : Nat) : List Glyph → List Glyph
  | [] => []
  | g :: rest => if g.width ≤ columns then dropFitting (columns - g.width) rest else g :: rest

def breakLine (columns : Nat) (w : Wrapping) : Wrapping :=
  { w with
    finished := w.line :: w.finished
    line := []
    gap := dropFitting (columns - Glyph.total w.line) w.gap }

def push (w : Wrapping) (g : Glyph) : Wrapping :=
  if g.isGap then { w with gap := w.gap ++ [g], inWord := false }
  else { w with word := w.word ++ [g], inWord := true }

def read (columns : Nat) (trim : Bool) (w : Wrapping) (g : Glyph) : Wrapping :=
  if columns < g.width then
    w
  else
    let w := if (w.inWord && g.isGap) || w.overflows columns trim g then w.settle trim else w
    if columns ≤ Glyph.total w.line || (0 < g.width && columns ≤ w.width) then
      let w := w.breakLine columns
      if g.isGap && w.gap.isEmpty then w else w.push g
    else
      w.push g

def lines (trim : Bool) (w : Wrapping) : List (List Glyph) :=
  let finished :=
    if w.line.isEmpty && w.word.isEmpty && !w.gap.isEmpty then [] :: w.finished else w.finished
  let last := (w.settle trim).line
  match (if last.isEmpty then finished else last :: finished) with
  | [] => [[]]
  | lines => lines.reverse

end Wrapping

def Glyph.wrap (columns : Nat) (trim : Bool) (gs : List Glyph) : List (List Glyph) :=
  (gs.foldl (Wrapping.read columns trim) .start).lines trim

/--
The part of a text that a place of the given width shows without the first `skip` columns. A glyph
that is wider than the place is left out, and one that begins within the skipped columns and ends
behind them is shown.
-/
def Glyph.cut (columns skip : Nat) (gs : List Glyph) : List Glyph :=
  go 0 skip gs
where
  go (used skip : Nat) : List Glyph → List Glyph
    | [] => []
    | g :: rest =>
      if columns < g.width then go used skip rest
      else if columns < used + g.width then []
      else if skip = 0 ∨ skip < g.width then g :: go (used + g.width) 0 rest
      else go used (skip - g.width) rest

end WeekMenu
