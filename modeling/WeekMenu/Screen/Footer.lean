import WeekMenu.Screen.KeyHint
import WeekMenu.Terminal.Paragraph

/-!
This module contains the footer: how things stand, the selected slot, the work that is going on, and
as many key hints as there is room for.
-/

namespace WeekMenu
namespace Screen

def spinner : List String := ["◐", "◓", "◑", "◒"]

def statusSpan (s : State) : Span :=
  match s.trouble, s.notice, s.menu with
  | some t, _, _ => ⟨"  ERROR: " ++ t.message ++ "  ", s.theme.statusError⟩
  | none, some message, _ => ⟨"  " ++ message ++ "  ", s.theme.statusInfo⟩
  | none, none, none => ⟨"  LOADING  ", s.theme.statusWarn⟩
  | none, none, some _ => ⟨"  READY  ", s.theme.statusReady⟩

def slotSpans (s : State) : Line :=
  match s.slotAddress? with
  | some address => [⟨" " ++ address ++ " ", s.theme.headerItem⟩, .raw " "]
  | none => []

def taskSpans (s : State) : Line :=
  if s.tasks.isEmpty then
    [.raw "  "]
  else
    let face := spinner.getD (s.frame.toNat % spinner.length) ""
    [⟨" " ++ face ++ " " ++ ", ".intercalate s.tasks ++ " ", s.theme.statusInfo⟩, .raw "  "]

def hintSpans (theme : Theme) (h : KeyHint) : Line :=
  let (keys, label) :=
    if h.active then (theme.headerActive, theme.headerActive.dim)
    else (theme.footerSegmentKey, theme.footerSegmentVal)
  [⟨" " ++ h.keys ++ " ", keys⟩, ⟨" " ++ h.label ++ " ", label⟩, .raw " "]

def hintsFitting (theme : Theme) (room used : Nat) : List KeyHint → Line × Nat
  | [] => ([], used)
  | h :: rest =>
    let next := used + h.room + 1
    if room < next then
      ([], used)
    else
      let (line, used) := hintsFitting theme room next rest
      (hintSpans theme h ++ line, used)

def groupTitle (theme : Theme) (wide : Bool) (room used first : Nat) (title : String) : Line :=
  let span : Span := ⟨title ++ ": ", theme.footerGroupName⟩
  if wide && used + span.width + first < room then [span] else []

def groupsFitting (theme : Theme) (wide : Bool) (room used : Nat) : List HintGroup → Line
  | [] => []
  | g :: rest =>
    match g.hints with
    | [] => groupsFitting theme wide room used rest
    | first :: _ =>
      if room < used + first.room then
        []
      else
        let title := groupTitle theme wide room used first.room g.title
        let (hints, used) := hintsFitting theme room (used + Line.width title) g.hints
        title ++ hints ++ .raw "  " :: groupsFitting theme wide room (used + 2) rest

def narrowWidth : Nat := 100

def footerLine (s : State) (width : Nat) : Line :=
  let line := statusSpan s :: .raw " " :: (slotSpans s ++ taskSpans s)
  line ++ groupsFitting s.theme (narrowWidth < width) (width - 4) (Line.width line)
    (HintGroup.ofState s)

def drawFooter (s : State) (r : Rect) (c : Canvas) : Canvas :=
  (c.paint s.theme.footer r).drawParagraph (.ofLine (footerLine s r.width)) r

end Screen
end WeekMenu
