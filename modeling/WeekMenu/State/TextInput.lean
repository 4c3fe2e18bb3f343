import WeekMenu.Terminal.Key
import WeekMenu.Text.Blank
import WeekMenu.Text.Width

/-!
This module contains the text that is being typed. It is kept in the parts into which the cursor
divides it, so that a key changes only what is next to the cursor.
-/

namespace WeekMenu

/--
A text with a cursor. What comes before the cursor is kept with the nearest first: `above` holds the
lines above, the lowest first, and `before` the part of the line before the cursor, backwards.
`top` and `left` are the first line and column that are shown.
-/
structure TextInput where
  above : List (List Char)
  before : List Char
  after : List Char
  below : List (List Char)
  top : Nat
  left : Nat
  deriving DecidableEq, Repr

namespace TextInput

def empty : TextInput := ⟨[], [], [], [], 0, 0⟩

instance : Inhabited TextInput := ⟨empty⟩

def ofText (text : String) : TextInput :=
  { empty with before := text.toList.reverse }

def line (t : TextInput) : List Char :=
  t.before.reverse ++ t.after

def lines (t : TextInput) : List (List Char) :=
  t.above.reverse ++ t.line :: t.below

def row (t : TextInput) : Nat := t.above.length

def column (t : TextInput) : Nat := t.before.length

def text (t : TextInput) : String :=
  String.ofList (t.lines.intersperse [' ']).flatten

def ofLines (lines : List (List Char)) (row column : Nat) : TextInput :=
  let row := min row (lines.length - 1)
  let line := lines.getD row []
  { empty with
    above := (lines.take row).reverse
    before := (line.take column).reverse
    after := line.drop column
    below := lines.drop (row + 1) }

/--
A copy of an input, made from its lines and the place of its cursor. A place is told by two numbers
of sixteen binary digits.
-/
def copy (t : TextInput) : TextInput :=
  ofLines t.lines (t.row % 65536) (t.column % 65536)

def alike (a b : TextInput) : Bool :=
  a.lines == b.lines && a.row == b.row && a.column == b.column

def insert (t : TextInput) (c : Char) : TextInput :=
  { t with before := c :: t.before }

def breakLine (t : TextInput) : TextInput :=
  { t with above := t.before.reverse :: t.above, before := [] }

def joinAbove (t : TextInput) : TextInput :=
  match t.above with
  | [] => t
  | line :: above => { t with above, before := line.reverse ++ t.before }

def deleteBack (t : TextInput) : TextInput :=
  match t.before with
  | _ :: before => { t with before }
  | [] => t.joinAbove

def deleteNext (t : TextInput) : TextInput :=
  match t.after with
  | _ :: after => { t with after }
  | [] =>
    match t.below with
    | line :: below => { t with after := line, below }
    | [] => t

def deleteToEnd (t : TextInput) : TextInput :=
  if t.after.isEmpty then t.deleteNext else { t with after := [] }

def deleteToStart (t : TextInput) : TextInput :=
  if t.before.isEmpty then t.joinAbove else { t with before := [] }

inductive CharKind where
  | blank
  | punctuation
  | other
  deriving DecidableEq, Repr

def CharKind.of (c : Char) : CharKind :=
  if Text.isBlank c then .blank
  else if 0x21 ≤ c.toNat ∧ c.toNat ≤ 0x7E ∧ !c.isAlphanum then .punctuation
  else .other

def deleteWord (t : TextInput) : TextInput :=
  match t.before with
  | [] => t.joinAbove
  | before =>
    match before.dropWhile (CharKind.of · == .blank) with
    | [] => { t with before := [] }
    | c :: rest => { t with before := rest.dropWhile (CharKind.of · == .of c) }

def back (t : TextInput) : TextInput :=
  match t.before with
  | c :: before => { t with before, after := c :: t.after }
  | [] =>
    match t.above with
    | line :: above =>
      { t with above, before := line.reverse, after := [], below := t.after :: t.below }
    | [] => t

def forward (t : TextInput) : TextInput :=
  match t.after with
  | c :: after => { t with before := c :: t.before, after }
  | [] =>
    match t.below with
    | line :: below =>
      { t with above := t.before.reverse :: t.above, before := [], after := line, below }
    | [] => t

def toStart (t : TextInput) : TextInput :=
  { t with before := [], after := t.line }

def toEnd (t : TextInput) : TextInput :=
  { t with before := t.line.reverse, after := [] }

def tabLength : Nat := 4

def insertTab (t : TextInput) : TextInput :=
  let width := t.before.foldl (fun n c => n + Text.advance c) 0
  let count := tabLength - width % tabLength
  { t with before := List.replicate count ' ' ++ t.before }

def control (t : TextInput) : Char → TextInput
  | 'm' => t.breakLine
  | 'h' => t.deleteBack
  | 'd' => t.deleteNext
  | 'k' => t.deleteToEnd
  | 'j' => t.deleteToStart
  | 'w' => t.deleteWord
  | 'f' => t.forward
  | 'b' => t.back
  | 'a' => t.toStart
  | 'e' => t.toEnd
  | _ => t

def input (t : TextInput) (key : Key) : TextInput :=
  if key.motion = .release then
    t
  else if key.code = .enter then
    t.breakLine
  else if key.code = .home then
    t.toStart
  else if key.code = .finish then
    t.toEnd
  else if key.mods.alt then
    t
  else
    match key.code, key.mods.control with
    | .char c, true => t.control c
    | .char c, false => if c = '\n' ∨ c = '\r' then t.breakLine else t.insert c
    | .tab, false => t.insertTab
    | .backspace, false => t.deleteBack
    | .delete, false => t.deleteNext
    | .left, false => t.back
    | .right, false => t.forward
    | _, _ => t

def scrollTo (first cursor count : Nat) : Nat :=
  if cursor < first then cursor
  else if first + count ≤ cursor then cursor + 1 - count
  else first

def scrolled (t : TextInput) (width height : Nat) : TextInput :=
  { t with
    top := scrollTo t.top (t.row % 65536) height
    left := scrollTo t.left (t.column % 65536) width }

end TextInput
end WeekMenu
