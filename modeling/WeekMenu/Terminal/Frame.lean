import WeekMenu.Terminal.Line

/-!
This module contains frames: a border around a rectangle, with a title on its upper side and a note
on its lower side.
-/

namespace WeekMenu

inductive BorderKind where
  | rounded
  | double
  deriving DecidableEq, Repr, Inhabited

structure BorderSigns where
  horizontal : String
  vertical : String
  topLeft : String
  topRight : String
  bottomLeft : String
  bottomRight : String
  deriving DecidableEq, Repr

def BorderKind.signs : BorderKind → BorderSigns
  | .rounded => ⟨"─", "│", "╭", "╮", "╰", "╯"⟩
  | .double => ⟨"═", "║", "╔", "╗", "╚", "╝"⟩

structure Frame where
  kind : BorderKind
  style : Style
  fill : Style
  title : Line
  note : Option (Alignment × Line)
  deriving Repr, Inhabited

namespace Frame

def rounded (style : Style) : Frame := ⟨.rounded, style, .plain, [], none⟩

def titled (f : Frame) (text : String) (style : Style) : Frame :=
  { f with title := [.raw " ", ⟨text, style⟩, .raw " "] }

def between (r : Rect) : Rect :=
  { r with x := r.x + 1, width := r.width - 2 }

def place (alignment : Alignment) (width : Nat) (row : Rect) : Rect :=
  { row with x := row.x + alignment.share (row.width - width), width := min width row.width }

end Frame

namespace Canvas

def drawBorder (f : Frame) (r : Rect) (c : Canvas) : Canvas :=
  let signs := f.kind.signs
  let put (symbol : String) (part : Rect) (c : Canvas) := c.changeAll (.write symbol f.style) part
  let right := r.right - 1
  let bottom := r.bottom - 1
  c |> put signs.vertical { r with width := 1 }
    |> put signs.horizontal { r with height := 1 }
    |> put signs.vertical { r with x := right, width := 1 }
    |> put signs.horizontal { r with y := bottom, height := 1 }
    |> put signs.bottomRight ⟨right, bottom, 1, 1⟩
    |> put signs.topRight ⟨right, r.y, 1, 1⟩
    |> put signs.bottomLeft ⟨r.x, bottom, 1, 1⟩
    |> put signs.topLeft ⟨r.x, r.y, 1, 1⟩

def drawTitle (alignment : Alignment) (line : Line) (row : Rect) (c : Canvas) : Canvas :=
  if row.isEmpty then c
  else c.drawLine line alignment (Frame.place alignment line.width row)

def drawFrame (f : Frame) (r : Rect) (c : Canvas) : Canvas :=
  let r := r.meet c.area
  if r.isEmpty then
    c
  else
    let row := { Frame.between r with height := 1 }
    let c := (c.paint f.fill r).drawBorder f r
    let c := c.drawTitle .left f.title row
    match f.note with
    | none => c
    | some (alignment, line) => c.drawTitle alignment line { row with y := r.bottom - 1 }

end Canvas
end WeekMenu
