import WeekMenu.Screen.Popup

/-!
This module contains the popup in which a palette is chosen. Each row shows some colours of its
palette.
-/

namespace WeekMenu
namespace Screen

def swatches (p : Palette) : Line :=
  [p.catalog, p.freeText, p.accent, p.mail].map fun colour => ⟨"██", .fg colour⟩

def paletteLine (theme : Theme) (name : PaletteName) (selected current : Bool) : Line :=
  let style := if selected then theme.listSelected else theme.listItem
  ⟨if selected then "> " else "  ", style⟩ :: swatches name.palette ++
    ⟨" " ++ name.label, style⟩ :: if current then [⟨" (current)", theme.dimmed⟩] else []

def drawPalettes (theme : Theme) (picker : ThemePicker) (current : PaletteName) (area : Rect)
    (c : Canvas) : Canvas :=
  let r := area.centered 40 30
  if r.isEmpty then
    c
  else
    (drawPopup (popupFrame theme " SELECT THEME ") r c).drawLines
      (picker.palettes.zipIdx.map fun (name, i) =>
        paletteLine theme name (i == picker.index) (name == current))
      r.inside

end Screen
end WeekMenu
