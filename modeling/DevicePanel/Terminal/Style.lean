/-!
# How characters look on a terminal
-/

namespace DevicePanel.Terminal

/-- A colour by its parts, each at most 255. -/
structure Colour where
  red : Nat
  green : Nat
  blue : Nat
deriving Repr, DecidableEq

structure Emphasis where
  bold : Bool
  italic : Bool
  underlined : Bool
deriving Repr, DecidableEq

/-- What is special about the look of characters; a colour that is not given is left as it is. -/
structure Style where
  foreground : Option Colour
  background : Option Colour
  emphasis : Emphasis
deriving Repr, DecidableEq

namespace Emphasis

def none : Emphasis := ⟨false, false, false⟩

def join (a b : Emphasis) : Emphasis :=
  ⟨a.bold || b.bold, a.italic || b.italic, a.underlined || b.underlined⟩

end Emphasis

namespace Style

/-- Nothing is special. -/
def plain : Style := ⟨none, none, .none⟩

def ofColour (colour : Colour) : Style := { plain with foreground := some colour }

def onGround (colour : Colour) : Style := { plain with background := some colour }

def bold (style : Style) : Style :=
  { style with emphasis := { style.emphasis with bold := true } }

def italic (style : Style) : Style :=
  { style with emphasis := { style.emphasis with italic := true } }

def underlined (style : Style) : Style :=
  { style with emphasis := { style.emphasis with underlined := true } }

/-- One style upon another: its colours hide those below, and emphasis adds up. -/
def atop (above below : Style) : Style :=
  ⟨above.foreground.or below.foreground, above.background.or below.background,
    below.emphasis.join above.emphasis⟩

end Style

end DevicePanel.Terminal
