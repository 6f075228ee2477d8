import DevicePanel.Console.Options
import DevicePanel.Console.Fault
import DevicePanel.Settings.Load
import DevicePanel.Settings.Connect

/-!
# Which hub the command-line program talks to

The options win over the profile.  Without a profile an option that names the hub will do.
-/

namespace DevicePanel.Console

def settingsPath (home : String) : String := home ++ "/cfg/devgrid/config.toml"

def profileName (options : Options) (settings : Settings) : String :=
  options.profile.getD settings.defaultProfileName

def override (options : Options) (connection : Connection) : Connection :=
  { connection with
    token := options.token.or connection.token
    trust := if options.insecure then .anyCertificate else connection.trust
    timeout := (options.timeout.map Settings.seconds).getD connection.timeout
    dispatchTimeout :=
      (options.dispatchTimeout.map Settings.seconds).getD connection.dispatchTimeout
    encoding := options.encoding.getD connection.encoding }

/-- The connection to the hub of a profile, with what the options change. -/
def resolve (options : Options) (settings : Settings) (name : String)
    (profile : Settings.Profile) (environment : Environment) (keyring : Keyring) :
    Except Fault Connection :=
  let profile := { profile with server := options.server.getD profile.server }
  match profile.connection name settings.defaults environment keyring with
  | .ok connection => .ok (override options connection)
  | .error fault => .error (.ofSettings fault)

def connection (options : Options) (home : String) (file : Option String)
    (environment : Environment) (keyring : Keyring) : Except Fault Connection :=
  let settings := Settings.loadOrUsual file environment
  let name := profileName options settings
  match settings.profiles.find? name, options.server with
  | some profile, _ => resolve options settings name profile environment keyring
  | none, some server =>
      resolve options settings name (.ofServer server) environment keyring
  | none, none =>
      if options.profile.isSome then
        .error (.ofSettings (.profileUnknown name settings.profileNames))
      else .error (.noHub (settingsPath home))

end DevicePanel.Console
