import DevicePanel.CommandLine.Matching
import DevicePanel.Hub.Client
import DevicePanel.Settings.Connect
import DevicePanel.Settings.Load

/-!
# Which hub the dashboard shows

An address on the command line wins, and then no settings are read.  Otherwise the hub is that of
a profile, and settings that cannot be loaded are a fault.
-/

namespace DevicePanel.Dashboard

open CommandLine (Grammar Meaning Refusal Switch)

/-- The options of the dashboard. -/
structure Options where
  profile : Option String
  server : Option String
  token : Option String
  insecure : Bool
  logFile : String
  verbosity : Nat
deriving Repr, DecidableEq

def switches : List Switch :=
  [⟨"profile", some 'p', .takes .text, some "DEVGRID_PROFILE", none⟩,
    ⟨"server", some 's', .takes .text, some "DEVGRID_SERVER", none⟩,
    ⟨"token", none, .takes .text, some "DEVGRID_TOKEN", none⟩,
    ⟨"insecure", some 'k', .sets, some "DEVGRID_INSECURE", some "false"⟩,
    ⟨"log-file", none, .takes .path, none, some ("/tmp/" ++ Program.dashboardName ++ ".log")⟩,
    ⟨"verbose", some 'v', .counts, none, some "0"⟩] ++ CommandLine.standardSwitches

def grammar : Grammar := ⟨switches, .mk Program.dashboardName [] [] [], Program.version⟩

def Options.ofMeaning (meaning : Meaning) : Options where
  profile := meaning.value? "profile"
  server := meaning.value? "server"
  token := meaning.value? "token"
  insecure := meaning.isOn "insecure"
  logFile := (meaning.value? "log-file").getD ""
  verbosity := (meaning.number? "verbose").getD 0

def understand (environment : Environment) (words : List String) : Except Refusal Options :=
  (CommandLine.understand grammar environment words).map .ofMeaning

/-- Why the dashboard has no hub to show. -/
inductive StartFault where
  /-- No profile is in use, and none was asked for. -/
  | noHub
  | settings (fault : Settings.Fault)
  | hub (fault : ListingFault)
deriving Repr, DecidableEq

def StartFault.message : StartFault → String
  | .noHub => "No backend configured; run `devgrid config init` or pass --server"
  | .settings fault => fault.message
  | .hub fault => fault.message

/-- The connection to the hub of a profile: the one asked for, else the one in use. -/
def profileConnection (requested : Option String) (file : Option String)
    (environment : Environment) (keyring : Keyring) : Except StartFault Connection :=
  match Settings.load file environment with
  | .error fault => .error (.settings (.unloadable fault))
  | .ok settings =>
      let name := requested.getD settings.defaultProfileName
      match settings.profile? name with
      | .error fault => .error (if requested.isSome then .settings fault else .noHub)
      | .ok profile =>
          (profile.connection name settings.defaults environment keyring).mapError .settings

def serverConnection (server : String) : Except StartFault Connection :=
  ((Settings.serverUrl server).map Connection.ofUrl).mapError .settings

def override (options : Options) (connection : Connection) : Connection :=
  { connection with
    token := options.token.or connection.token
    trust := if options.insecure then .anyCertificate else connection.trust }

def connection (options : Options) (file : Option String) (environment : Environment)
    (keyring : Keyring) : Except StartFault Connection :=
  let found := match options.server with
    | some server => serverConnection server
    | none => profileConnection options.profile file environment keyring
  found.map (override options)

/-- The client of a connection, and the name that the status bar tells of it. -/
def client (connection : Connection) (certificates : Hub.Client.Certificates) :
    Except StartFault (Hub.Client × String) :=
  match connection.client certificates with
  | .error fault => .error (.hub fault.toListingFault)
  | .ok client => .ok (client, connection.url.toText)

end DevicePanel.Dashboard
