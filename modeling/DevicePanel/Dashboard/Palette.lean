import DevicePanel.Terminal.Style

/-!
# The colours of the dashboard
-/

namespace DevicePanel.Dashboard.Palette

open Terminal (Colour Style)

def violet : Colour := ⟨225, 53, 255⟩
def cyan : Colour := ⟨128, 255, 234⟩
def coral : Colour := ⟨255, 106, 193⟩
def yellow : Colour := ⟨241, 250, 140⟩
def green : Colour := ⟨80, 250, 123⟩
def red : Colour := ⟨255, 99, 99⟩
def white : Colour := ⟨189, 193, 207⟩
def grey : Colour := ⟨98, 114, 164⟩
def raised : Colour := ⟨40, 42, 54⟩
def ground : Colour := ⟨30, 31, 41⟩

def title : Style := (Style.ofColour cyan).bold
def border : Style := .ofColour violet

/-- The headings of the columns. -/
def columns : Style := (Style.ofColour cyan).bold.underlined

def heading : Style := (Style.ofColour violet).bold

def text : Style := .ofColour white
def name : Style := .ofColour cyan

def selected : Style := (Style.atop (.ofColour violet) (.onGround raised)).bold

/-- A state that a command under way may change. -/
def pending : Style := (Style.ofColour yellow).italic

def state : Style := .ofColour coral

def button : Style := (Style.atop (.ofColour ground) (.onGround cyan)).bold

/-- What a key does. -/
def hint : Style := .ofColour grey

/-- A key. -/
def key : Style := (Style.ofColour cyan).bold

end DevicePanel.Dashboard.Palette
