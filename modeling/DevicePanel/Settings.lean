import DevicePanel.Keyed
import DevicePanel.Connection

/-!
# Settings

What a person keeps about the hubs in use: a profile for each hub, and what holds where a
profile says nothing.
-/

namespace DevicePanel

namespace Settings

/-- What holds where a profile says nothing; times are in seconds. -/
structure Defaults where
  output : String
  color : String
  insecure : Bool
  timeout : Nat
  dispatchTimeout : Nat
deriving Repr, DecidableEq

def Defaults.usual : Defaults where
  output := "table"
  color := "auto"
  insecure := false
  timeout := Connection.usualTimeout / 1000
  dispatchTimeout := Connection.usualDispatchTimeout / 1000

/-- A hub and what is special about it. -/
structure Profile where
  server : String
  token : Option String
  /-- The variable of the environment that holds the token. -/
  tokenVariable : Option String
  /-- The file of the certificate that vouches for the hub. -/
  certificate : Option String
  insecure : Option Bool
  timeout : Option Nat
  dispatchTimeout : Option Nat
  policy : Option OverlapPolicy
  encoding : Option BodyEncoding
deriving Repr, DecidableEq

def Profile.ofServer (server : String) : Profile :=
  ⟨server, none, none, none, none, none, none, none, none⟩

end Settings

open Settings (Defaults Profile)

/-- Settings: the name of the profile in use, the defaults and all profiles. -/
structure Settings where
  defaultProfile : Option String
  defaults : Defaults
  profiles : Keyed Profile
deriving Repr, DecidableEq

namespace Settings

def usualProfile : String := "default"

def usual : Settings := ⟨some usualProfile, .usual, []⟩

def defaultProfileName (settings : Settings) : String :=
  settings.defaultProfile.getD usualProfile

def profileNames (settings : Settings) : List String := settings.profiles.keys

end Settings

end DevicePanel
