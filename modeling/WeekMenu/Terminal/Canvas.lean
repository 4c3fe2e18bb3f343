import WeekMenu.Terminal.Rect
import WeekMenu.Terminal.Style

/-!
This module contains what a terminal shows: a grid of cells, each with a symbol and its looks.
-/

namespace WeekMenu

structure Cell where
  symbol : String
  foreground : Colour
  background : Colour
  emphasis : Emphasis
  deriving DecidableEq, Repr

namespace Cell

def blank : Cell := ⟨" ", .reset, .reset, .none⟩

instance : Inhabited Cell := ⟨blank⟩

def paint (style : Style) (c : Cell) : Cell where
  symbol := c.symbol
  foreground := style.foreground.getD c.foreground
  background := style.background.getD c.background
  emphasis := c.emphasis.or style.emphasis

def write (symbol : String) (style : Style) (c : Cell) : Cell :=
  { c with symbol }.paint style

def append (marks : String) (style : Style) (c : Cell) : Cell :=
  { c with symbol := c.symbol ++ marks }.paint style

end Cell

structure Canvas where
  width : Nat
  height : Nat
  cells : Array Cell
  deriving Repr, Inhabited

namespace Canvas

def blank (width height : Nat) : Canvas :=
  ⟨width, height, Array.replicate (width * height) .blank⟩

def area (c : Canvas) : Rect := ⟨0, 0, c.width, c.height⟩

def get (c : Canvas) (x y : Nat) : Cell :=
  if x < c.width then c.cells.getD (y * c.width + x) .blank else .blank

def change (f : Cell → Cell) (x y : Nat) (c : Canvas) : Canvas :=
  if x < c.width then { c with cells := c.cells.modify (y * c.width + x) f } else c

def changeRow (f : Cell → Cell) (start stop y : Nat) (c : Canvas) : Canvas :=
  (List.range' start (stop - start)).foldl (fun c x => c.change f x y) c

def changeAll (f : Cell → Cell) (r : Rect) (c : Canvas) : Canvas :=
  let r := r.meet c.area
  (List.range' r.y r.height).foldl (fun c y => c.changeRow f r.x r.right y) c

def paint (style : Style) (r : Rect) (c : Canvas) : Canvas :=
  c.changeAll (.paint style) r

def erase (r : Rect) (c : Canvas) : Canvas :=
  c.changeAll (fun _ => .blank) r

def row (c : Canvas) (y : Nat) : List Cell :=
  (List.range c.width).map fun x => c.get x y

def rows (c : Canvas) : List (List Cell) :=
  (List.range c.height).map c.row

def rowText (cells : List Cell) : String :=
  let cs := cells.flatMap fun cell => cell.symbol.toList
  String.ofList (cs.reverse.dropWhile (· == ' ')).reverse

def texts (c : Canvas) : List String :=
  c.rows.map rowText

end Canvas
end WeekMenu
