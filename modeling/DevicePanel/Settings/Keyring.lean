import DevicePanel.Settings.Variable
import DevicePanel.Settings

/-!
# Tokens of profiles

The token of a profile stands in a variable of the environment, in the keyring of the system or
in the settings themselves, and is looked for in this order.
-/

namespace DevicePanel

/-- A call to the keyring of the system. -/
inductive KeyringCall where
  | entry
  | get
  | set
deriving Repr, DecidableEq

def KeyringCall.name : KeyringCall → String
  | .entry => "entry"
  | .get => "get"
  | .set => "set"

/-- The keyring: the secrets of one service, and the call that the system refuses, if any. -/
structure Keyring where
  secrets : Keyed String
  refused : Option KeyringCall
deriving Repr, DecidableEq

namespace Keyring

def service : String := "devgrid"

def secretName (profile : String) : String := profile ++ "/token"

def refusal (call : KeyringCall) : String :=
  "Couldn't access platform secure storage: " ++ call.name ++ " refused"

def token? (keyring : Keyring) (profile : String) : Option String :=
  if keyring.refused = some .entry ∨ keyring.refused = some .get then none
  else keyring.secrets.find? (secretName profile)

def store (keyring : Keyring) (profile token : String) : Except Settings.Fault Keyring :=
  match keyring.refused with
  | some .entry => .error (.keyring (refusal .entry))
  | some .set => .error (.keyring (refusal .set))
  | _ => .ok { keyring with secrets := keyring.secrets.put (secretName profile) token }

end Keyring

def Settings.Profile.token? (profile : Settings.Profile) (name : String)
    (environment : Environment) (keyring : Keyring) : Option String :=
  ((profile.tokenVariable.bind environment.find?).or (keyring.token? name)).or profile.token

end DevicePanel
