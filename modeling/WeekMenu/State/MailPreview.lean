import WeekMenu.Text.Blank

/-!
This module contains the mail that is being read, and how far it is scrolled.
-/

namespace WeekMenu

structure MailPreview where
  content : String
  scroll : Nat
  deriving DecidableEq, Repr, Inhabited

def Text.lines (cs : List Char) : List (List Char) :=
  let parts := splitOn '\n' cs
  let last := parts.getLastD []
  parts.dropLast.map stripReturn ++ if last.isEmpty then [] else [last]
where
  stripReturn (line : List Char) : List Char :=
    if line.getLast? == some '\r' then line.dropLast else line

namespace MailPreview

def ofMail (content : String) : MailPreview := ⟨content, 0⟩

def lines (p : MailPreview) : List String :=
  (Text.lines p.content.toList).map String.ofList

def lastScroll (p : MailPreview) : Nat :=
  (p.lines.length - 1) % 65536

def scrollDown (p : MailPreview) (n : Nat) : MailPreview :=
  { p with scroll := min (min (p.scroll + n) 65535) p.lastScroll }

def scrollUp (p : MailPreview) (n : Nat) : MailPreview :=
  { p with scroll := p.scroll - n }

end MailPreview
end WeekMenu
