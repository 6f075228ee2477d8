import DevicePanel.Settings.Keyring
import DevicePanel.Url.Reader

/-!
# From a profile to a connection

A profile's own values win over the defaults.
-/

namespace DevicePanel.Settings

/-- The address of a hub; only `http` and `https` will do. -/
def serverUrl (text : String) : Except Fault Url :=
  match Url.ofText text with
  | .error _ => .error (.invalid "server" ("invalid URL: " ++ text))
  | .ok url =>
      if url.isWeb then .ok url
      else .error (.invalid "server" ("expected an http or https URL, got '" ++ text ++ "'"))

/-- Whose certificates are trusted: all when that is wished, else those of a file if there is
one. -/
def trustOf (insecure : Bool) (certificate : Option String) : Hub.Trust :=
  if insecure then .anyCertificate
  else
    match certificate with
    | some path => .certificate path
    | none => .system

/-- A number of seconds as milliseconds. -/
def seconds (n : Nat) : Nat := n * 1000

def Profile.connection (profile : Profile) (name : String) (defaults : Defaults)
    (environment : Environment) (keyring : Keyring) : Except Fault Connection :=
  (serverUrl profile.server).map fun url => {
    url := url
    token := profile.token? name environment keyring
    trust := trustOf (profile.insecure.getD defaults.insecure) profile.certificate
    timeout := seconds (profile.timeout.getD defaults.timeout)
    dispatchTimeout := seconds (profile.dispatchTimeout.getD defaults.dispatchTimeout)
    policy := profile.policy.getD .supersede
    encoding := profile.encoding.getD .json }

def profile? (settings : Settings) (name : String) : Except Fault Profile :=
  match settings.profiles.find? name with
  | some profile => .ok profile
  | none => .error (.profileUnknown name settings.profileNames)

end DevicePanel.Settings
