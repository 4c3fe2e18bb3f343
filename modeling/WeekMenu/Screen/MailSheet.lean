import WeekMenu.Screen.Popup

/-!
This module contains the popup in which the mail is read.
-/

namespace WeekMenu
namespace Screen

def mailLine (theme : Theme) (text : String) : Line :=
  match text.toList with
  | '-' :: ' ' :: rest =>
    let name := rest.takeWhile (· != ':')
    match rest.dropWhile (· != ':') with
    | [] => [⟨text, theme.mailText⟩]
    | ingredients =>
      [⟨"- ", theme.dimmed⟩, ⟨String.ofList name, theme.mailHeading⟩,
        ⟨String.ofList ingredients, theme.mailText⟩]
  | _ => [⟨text, theme.mailText⟩]

def mailKeys (theme : Theme) : Line := [
  .raw " ", ⟨"j/k", theme.footerSegmentKey⟩, .raw " scroll ",
  ⟨"w", theme.footerSegmentKey⟩, .raw " save ",
  ⟨"Esc", theme.footerSegmentKey⟩, .raw " close "]

def drawMail (theme : Theme) (preview : MailPreview) (area : Rect) (c : Canvas) : Canvas :=
  let r := area.centered 80 80
  if r.width = 0 ∨ r.height < 3 then
    c
  else
    let frame :=
      { popupFrame theme " WEEKLY MAIL " with note := some (.center, mailKeys theme) }
    let lines := preview.lines.map (mailLine theme)
    (drawPopup frame r c).drawParagraph ⟨lines, .left, .wrap false, preview.scroll⟩ r.inside

end Screen
end WeekMenu
