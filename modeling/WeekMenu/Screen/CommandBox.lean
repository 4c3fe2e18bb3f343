import WeekMenu.Screen.Popup

/-!
This module contains the popup of the command bar: the text that is being typed, with its cursor,
and the suggestions below it.
-/

namespace WeekMenu

namespace TextInput

def expandTabs (column : Nat) : List Char → List Char × Nat
  | [] => ([], column)
  | c :: rest =>
    if c = '\t' then
      let count := tabLength - column % tabLength
      let (text, column) := expandTabs (column + count) rest
      (List.replicate count ' ' ++ text, column)
    else
      let (text, column) := expandTabs (column + Text.advance c) rest
      (c :: text, column)

def lineStyle : Style := Style.plain.underlined

def cursorStyle : Style := Style.plain.reversed

def cursorLine (t : TextInput) : Line :=
  let (before, column) := expandTabs 0 t.before.reverse
  let before : Span := ⟨String.ofList before, lineStyle⟩
  match t.after with
  | [] => [before, ⟨" ", cursorStyle⟩]
  | c :: after =>
    let (cursor, column) := expandTabs column [c]
    let (after, _) := expandTabs column after
    [before, ⟨String.ofList cursor, cursorStyle⟩, ⟨String.ofList after, lineStyle⟩]

def plainLine (cs : List Char) : Line :=
  [.raw (String.ofList (expandTabs 0 cs).1)]

def shownLines (t : TextInput) : List Line :=
  t.above.reverse.map plainLine ++ t.cursorLine :: t.below.map plainLine

def paragraph (t : TextInput) (width height : Nat) : Paragraph :=
  let t := t.scrolled width height
  ⟨t.shownLines, .left, .cut t.left, t.top⟩

end TextInput

namespace Screen

structure CommandBox where
  outer : Rect
  prompt : Rect
  input : Rect
  rule : Rect
  suggestions : Rect
  deriving DecidableEq, Repr

def promptText : String := " > "

def CommandBox.ofArea? (area : Rect) : Option CommandBox :=
  let outer := area.atBottom 80 (4 + Suggestion.limit) 1
  if outer.width < 4 ∨ outer.height < 3 then
    none
  else
    let inner := outer.inside
    let prompt := { inner with height := min inner.height 1 }
    let rule := { inner with y := inner.y + prompt.height, height := min (inner.height - 1) 1 }
    some {
      outer, prompt, rule
      input := prompt.indent promptText.length
      suggestions := {
        inner with
        y := rule.y + rule.height
        height := inner.height - prompt.height - rule.height } }

def suggestionLine (theme : Theme) (selected : Bool) (suggestion : String) : Line :=
  let style := if selected then theme.listSelected else theme.listItem
  [⟨if selected then "> " else "  ", style⟩, ⟨suggestion, style⟩]

def drawSuggestions (theme : Theme) (bar : CommandBar) (r : Rect) (c : Canvas) : Canvas :=
  if bar.suggestions.isEmpty then
    c.drawLine [⟨"  No suggestions.", theme.listItem.dim⟩] .left { r with height := 1 }
  else
    c.drawLines
      (bar.suggestions.zipIdx.map fun (suggestion, i) =>
        suggestionLine theme (bar.selected == some i) suggestion)
      r

def drawCommandBox (theme : Theme) (bar : CommandBar) (area : Rect) (c : Canvas) : Canvas :=
  match CommandBox.ofArea? area with
  | none => c
  | some box =>
    let rule := String.ofList (List.replicate box.rule.width '─')
    c |> drawPopup (popupFrame theme " COMMAND ") box.outer
      |>.drawLine [⟨promptText, theme.footerSegmentKey⟩] .left box.prompt
      |>.drawParagraph (bar.input.paragraph box.input.width box.input.height) box.input
      |>.drawLine [⟨rule, theme.border⟩] .left box.rule
      |> drawSuggestions theme bar box.suggestions

end Screen

def State.afterDrawing (s : State) (width height : Nat) : State :=
  match s.mode, Screen.CommandBox.ofArea? ⟨0, 0, width, height⟩ with
  | .commandBar, some box =>
    if box.input.isEmpty then s
    else { s with bar := s.bar.map fun bar =>
      { bar with input := bar.input.scrolled box.input.width box.input.height } }
  | _, _ => s

end WeekMenu
