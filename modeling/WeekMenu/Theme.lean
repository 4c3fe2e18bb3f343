import WeekMenu.Terminal.Style

/-!
This module contains the palettes and the styles that the screen takes from them.
-/

namespace WeekMenu

inductive PaletteName where
  | catppuccinMocha
  | nord
  | gruvbox
  deriving DecidableEq, Repr, Inhabited

structure Palette where
  background : Colour
  shadow : Colour
  foreground : Colour
  muted : Colour
  soft : Colour
  panel : Colour
  rule : Colour
  faint : Colour
  hint : Colour
  accent : Colour
  catalog : Colour
  caution : Colour
  freeText : Colour
  danger : Colour
  mail : Colour
  deriving DecidableEq, Repr

namespace PaletteName

def all : List PaletteName := [.catppuccinMocha, .nord, .gruvbox]

def key : PaletteName → String
  | .catppuccinMocha => "catppuccin-mocha"
  | .nord => "nord"
  | .gruvbox => "gruvbox"

def ofKey? (key : String) : Option PaletteName :=
  all.find? (·.key == key)

def label : PaletteName → String
  | .catppuccinMocha => "Catppuccin (Mocha)"
  | .nord => "Nord"
  | .gruvbox => "Gruvbox"

def palette : PaletteName → Palette
  | .catppuccinMocha => {
    background := .rgb 30 30 46
    shadow := .rgb 17 17 27
    foreground := .rgb 205 214 244
    muted := .rgb 166 173 200
    soft := .rgb 186 194 222
    panel := .rgb 49 50 68
    rule := .rgb 88 91 112
    faint := .rgb 108 112 134
    hint := .rgb 127 132 156
    accent := .rgb 137 180 250
    catalog := .rgb 166 227 161
    caution := .rgb 249 226 175
    freeText := .rgb 250 179 135
    danger := .rgb 243 139 168
    mail := .rgb 203 166 247 }
  | .nord => {
    background := .rgb 46 52 64
    shadow := .rgb 43 48 59
    foreground := .rgb 236 239 244
    muted := .rgb 216 222 233
    soft := .rgb 229 233 240
    panel := .rgb 76 86 106
    rule := .rgb 67 76 94
    faint := .rgb 129 161 193
    hint := .rgb 136 192 208
    accent := .rgb 129 161 193
    catalog := .rgb 163 190 140
    caution := .rgb 235 203 139
    freeText := .rgb 208 135 112
    danger := .rgb 191 97 106
    mail := .rgb 180 142 173 }
  | .gruvbox => {
    background := .rgb 40 40 40
    shadow := .rgb 29 32 33
    foreground := .rgb 235 219 178
    muted := .rgb 189 174 147
    soft := .rgb 213 196 161
    panel := .rgb 60 56 54
    rule := .rgb 102 92 84
    faint := .rgb 124 111 100
    hint := .rgb 146 131 116
    accent := .rgb 131 165 152
    catalog := .rgb 184 187 38
    caution := .rgb 250 189 47
    freeText := .rgb 254 128 25
    danger := .rgb 251 73 52
    mail := .rgb 211 134 155 }

end PaletteName

structure Theme where
  border : Style
  borderFocus : Style
  dayLabel : Style
  dayLabelSelected : Style
  slotCatalog : Style
  slotFreeText : Style
  slotEmpty : Style
  slotImage : Style
  slotSelected : Style
  mailHeading : Style
  mailText : Style
  statusReady : Style
  statusInfo : Style
  statusWarn : Style
  statusError : Style
  headerLogo : Style
  headerWeek : Style
  headerStats : Style
  headerActive : Style
  headerWarn : Style
  headerItem : Style
  header : Style
  footerSegmentKey : Style
  footerSegmentVal : Style
  footerGroupName : Style
  footer : Style
  listSelected : Style
  listItem : Style
  dimmed : Style
  deriving DecidableEq, Repr

namespace Theme

def ofPalette (p : Palette) : Theme where
  border := .fg p.rule
  borderFocus := .fg p.accent
  dayLabel := (Style.fg p.soft).bold
  dayLabelSelected := (Style.colours p.shadow p.accent).bold
  slotCatalog := (Style.fg p.catalog).bold
  slotFreeText := (Style.fg p.freeText).italic
  slotEmpty := (Style.fg p.faint).dim
  slotImage := (Style.fg p.rule).dim
  slotSelected := .bg (Colour.dim .threeTenths p.accent)
  mailHeading := (Style.fg p.mail).bold
  mailText := .fg p.foreground
  statusReady := (Style.colours p.shadow p.catalog).bold
  statusInfo := (Style.colours p.shadow p.accent).bold
  statusWarn := (Style.colours p.shadow p.caution).bold
  statusError := (Style.colours p.shadow p.danger).bold
  headerLogo := (Style.colours p.shadow p.accent).bold
  headerWeek := (Style.colours p.shadow p.mail).bold
  headerStats := .colours p.soft p.panel
  headerActive := (Style.colours p.shadow p.catalog).bold
  headerWarn := (Style.colours p.shadow p.caution).bold
  headerItem := .colours p.foreground p.panel
  header := .colours p.foreground p.background
  footerSegmentKey := (Style.colours p.accent p.panel).bold
  footerSegmentVal := .colours p.foreground p.background
  footerGroupName := (Style.fg p.muted).dim
  footer := .colours p.muted p.shadow
  listSelected := (Style.colours p.shadow p.accent).bold
  listItem := .fg p.foreground
  dimmed := (Style.fg p.hint).dim

def ofName (name : PaletteName) : Theme :=
  ofPalette name.palette

end Theme
end WeekMenu
