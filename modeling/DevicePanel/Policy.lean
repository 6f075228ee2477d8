import DevicePanel.Json.Decode

/-!
# Choices that a setting names

What happens to a command that is still under way when another one is sent to the same device,
and how a command's body is encoded.
-/

namespace DevicePanel

/-- What happens to a device's earlier command when a new one is sent. -/
inductive OverlapPolicy where
  /-- The earlier command is given up; only the newest one can change the row. -/
  | supersede
  /-- Every command runs; the answer that comes last wins. -/
  | lastResponseWins
deriving Repr, DecidableEq, Inhabited

namespace OverlapPolicy

def name : OverlapPolicy → String
  | .supersede => "supersede"
  | .lastResponseWins => "last-response-wins"

def choices : List (String × OverlapPolicy) :=
  [(name .supersede, .supersede), (name .lastResponseWins, .lastResponseWins)]

def ofName? (text : String) : Option OverlapPolicy :=
  (choices.find? fun choice => choice.1 == text).map Prod.snd

/-- Why a text names no policy. -/
def refusal : String := "Matching variant not found"

def decoder : Json.Decoder OverlapPolicy := Json.choice choices

end OverlapPolicy

/-- How a command's body is encoded. -/
inductive BodyEncoding where
  | json
  | form
deriving Repr, DecidableEq, Inhabited

namespace BodyEncoding

def name : BodyEncoding → String
  | .json => "json"
  | .form => "form"

def choices : List (String × BodyEncoding) := [(name .json, .json), (name .form, .form)]

def decoder : Json.Decoder BodyEncoding := Json.choice choices

end BodyEncoding

end DevicePanel
