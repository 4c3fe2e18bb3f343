/-!
This module contains colours and the styles of text on a terminal.
-/

namespace WeekMenu

inductive Colour where
  | reset
  | named (number : Fin 16)
  | indexed (number : Nat)
  | rgb (red green blue : Nat)
  deriving DecidableEq, Repr, Inhabited

namespace Colour

def names : List String :=
  ["black", "red", "green", "yellow", "blue", "magenta", "cyan", "gray", "darkgray", "lightred",
    "lightgreen", "lightyellow", "lightblue", "lightmagenta", "lightcyan", "white"]

def channelDigits (n : Nat) : List Char :=
  [Nat.digitChar (n / 16 % 16), Nat.digitChar (n % 16)]

def name : Colour → String
  | .reset => "reset"
  | .named n => names.getD n.val ""
  | .indexed n => toString n
  | .rgb r g b => String.ofList ('#' :: channelDigits r ++ channelDigits g ++ channelDigits b)

/--
A factor between zero and one: `numerator / 2 ^ shift`.
-/
structure Factor where
  numerator : Nat
  shift : Nat
  deriving DecidableEq, Repr, Inhabited

def Factor.threeTenths : Factor := ⟨10066330, 25⟩

/--
The factor whose binary form is given: a sign, eight digits for the exponent and twenty-three for
the fraction. What is below zero or no number counts as zero, and what is above one as one.
-/
def Factor.ofBits (bits : Nat) : Factor :=
  let exponent := bits >>> 23
  let fraction := bits % (1 <<< 23)
  if 1 <<< 31 ≤ bits ∨ 0xFF <<< 23 < bits then ⟨0, 0⟩
  else if 127 ≤ exponent then ⟨1, 0⟩
  else if exponent = 0 then ⟨fraction, 149⟩
  else ⟨(1 <<< 23) + fraction, 150 - exponent⟩

def roundTo24 (n : Nat) : Nat :=
  let excess := n.log2 + 1 - 24
  let unit := 1 <<< excess
  let quotient := n / unit
  let twiceRest := 2 * (n % unit)
  let quotient :=
    if twiceRest > unit || (twiceRest == unit && quotient % 2 == 1) then quotient + 1 else quotient
  quotient * unit

def scaleChannel (f : Factor) (channel : Nat) : Nat :=
  roundTo24 (channel * f.numerator) >>> f.shift

def dim (f : Factor) : Colour → Colour
  | .rgb r g b => .rgb (scaleChannel f r) (scaleChannel f g) (scaleChannel f b)
  | c => c

end Colour

structure Emphasis where
  bold : Bool
  dim : Bool
  italic : Bool
  underlined : Bool
  reversed : Bool
  deriving DecidableEq, Repr, Inhabited

namespace Emphasis

def none : Emphasis := ⟨false, false, false, false, false⟩

def or (a b : Emphasis) : Emphasis :=
  ⟨a.bold || b.bold, a.dim || b.dim, a.italic || b.italic, a.underlined || b.underlined,
    a.reversed || b.reversed⟩

def names (e : Emphasis) : List String :=
  (if e.bold then ["BOLD"] else []) ++ (if e.dim then ["DIM"] else []) ++
  (if e.italic then ["ITALIC"] else []) ++ (if e.underlined then ["UNDERLINED"] else []) ++
  (if e.reversed then ["REVERSED"] else [])

end Emphasis

structure Style where
  foreground : Option Colour
  background : Option Colour
  emphasis : Emphasis
  deriving DecidableEq, Repr, Inhabited

namespace Style

def plain : Style := ⟨none, none, .none⟩

def fg (c : Colour) : Style := { plain with foreground := some c }

def bg (c : Colour) : Style := { plain with background := some c }

def colours (foreground background : Colour) : Style :=
  { plain with foreground := some foreground, background := some background }

def bold (s : Style) : Style := { s with emphasis := { s.emphasis with bold := true } }

def dim (s : Style) : Style := { s with emphasis := { s.emphasis with dim := true } }

def italic (s : Style) : Style := { s with emphasis := { s.emphasis with italic := true } }

def underlined (s : Style) : Style := { s with emphasis := { s.emphasis with underlined := true } }

def reversed (s : Style) : Style := { s with emphasis := { s.emphasis with reversed := true } }

def patch (first second : Style) : Style where
  foreground := second.foreground <|> first.foreground
  background := second.background <|> first.background
  emphasis := first.emphasis.or second.emphasis

end Style
end WeekMenu
