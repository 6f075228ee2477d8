import DevicePanel.Fault
import DevicePanel.Settings.Fault

/-!
# Why an invocation failed

Each failure has a message, a code by which it can be looked up, sometimes a word of help, and
the status with which the program ends.
-/

namespace DevicePanel.Console

inductive Fault where
  | unreachable (url reason : String)
  | unauthorized (code : Nat)
  /-- Something named on the command line is not there; `listing` is the order that shows what
  is. -/
  | notFound (kind name listing : String)
  | unknownCommand (device command available : String)
  | status (code : Nat) (body : String)
  | malformed (reason : String)
  | superseded (device command : String)
  | timedOut (what : String)
  | invalid (field reason : String)
  | profileUnknown (name available : String)
  | noHub (path : String)
  | settings (fault : Settings.LoadFault)
  | keyring (reason : String)
  | storage (reason : String)
  | json (reason : String)
  | unwritable (reason : String)
deriving Repr, DecidableEq

namespace Fault

def message : Fault → String
  | .unreachable url _ => "Could not connect to device backend at " ++ url
  | .unauthorized code => "Backend rejected the request (HTTP " ++ toString code ++ ")"
  | .notFound kind name _ => kind ++ " '" ++ name ++ "' not found"
  | .unknownCommand device command _ =>
      "Device '" ++ device ++ "' has no command '" ++ command ++ "'"
  | .status code _ => "Backend error (HTTP " ++ toString code ++ ")"
  | .malformed reason => "Backend sent a malformed response: " ++ reason
  | .superseded device command =>
      "Command '" ++ command ++ "' on device '" ++ device ++ "' was superseded"
  | .timedOut what => what ++ " timed out"
  | .invalid field reason => "Invalid value for " ++ field ++ ": " ++ reason
  | .profileUnknown name _ => "Profile '" ++ name ++ "' not found in configuration"
  | .noHub _ => "No backend configured"
  | .settings fault => fault.cause.message
  | .keyring reason => "Keyring error: " ++ reason
  | .storage reason => reason
  | .json reason => "Failed to render JSON: " ++ reason
  | .unwritable reason => "Failed to write config: " ++ reason

def code? (fault : Fault) : Option String :=
  let name := match fault with
    | .unreachable .. => "connection_failed"
    | .unauthorized _ => "unauthorized"
    | .notFound .. => "not_found"
    | .unknownCommand .. => "unknown_command"
    | .status .. => "backend_status"
    | .malformed _ => "malformed"
    | .superseded .. => "superseded"
    | .timedOut _ => "timeout"
    | .invalid .. => "validation"
    | .profileUnknown .. => "profile_not_found"
    | .noHub _ => "no_config"
    | .settings _ => "config"
    | .keyring _ => "keyring"
    | .storage _ => ""
    | .json _ => "json"
    | .unwritable _ => "config_write"
  if name.isEmpty then none else some ("devgrid::" ++ name)

/-- What could be done about a failure. -/
def help? : Fault → Option String
  | .unreachable _ reason =>
      some ("Check that the backend is running and reachable.\nReason: " ++ reason)
  | .unauthorized _ =>
      some "Check the bearer token for this profile.\nStore one with: devgrid config set-token"
  | .notFound _ _ listing => some ("Run: devgrid " ++ listing ++ " to see what is available")
  | .unknownCommand _ _ available => some ("Available commands: " ++ available)
  | .status _ body => some body
  | .malformed _ =>
      some ("The backend may not speak the devgrid device protocol, or a proxy altered the " ++
        "reply.")
  | .timedOut _ =>
      some "Increase --timeout / --dispatch-timeout or check backend responsiveness."
  | .profileUnknown _ available =>
      some ("Available profiles: " ++ available ++ "\nCreate one with: devgrid config init")
  | .noHub path =>
      some ("Create a profile with: devgrid config init\n" ++
        "Or pass --server / set DEVGRID_SERVER.\nExpected config at: " ++ path)
  | _ => none

/-- The status with which the program ends. -/
def exitCode : Fault → Nat
  | .unreachable .. => 7
  | .unauthorized _ => 3
  | .notFound .. | .profileUnknown .. => 4
  | .timedOut _ => 8
  | .invalid .. | .unknownCommand .. | .noHub _ => 2
  | _ => 1

/-! ## From the failures of the parts -/

def ofStatus (code : Nat) (body : String) : Fault :=
  if code = 401 ∨ code = 403 then .unauthorized code else .status code body

def ofListing : ListingFault → Fault
  | .unreachable url reason => .unreachable url reason
  | .timedOut => .timedOut "Device listing"
  | .status code body => ofStatus code body
  | .malformed reason => .malformed reason
  | .duplicateId id => .malformed ("device id '" ++ id ++ "' appears more than once")
  | .misconfigured reason => .invalid "server" reason

def ofCommand : CommandFault → Fault
  | .unreachable url reason => .unreachable url reason
  | .timedOut none => .timedOut "Device command"
  | .timedOut (some milliseconds) =>
      .timedOut ("Device command (after " ++ toString milliseconds ++ "ms)")
  | .status code body => ofStatus code body
  | .malformed reason => .malformed reason
  | .unknownDevice id => .malformed ("backend reported state for unknown device '" ++ id ++ "'")
  | .noButton row index =>
      .invalid "command" ("no command at row " ++ toString row ++ ", position " ++ toString index)
  | .superseded id command => .superseded id command
  | .misconfigured reason => .invalid "server" reason

/-- A list of names, or a word that says there are none. -/
def namesOrNone (names : List String) : String :=
  if names.isEmpty then "(none)" else ", ".intercalate names

def ofSettings : Settings.Fault → Fault
  | .invalid field reason => .invalid field reason
  | .profileUnknown name available => .profileUnknown name (namesOrNone available)
  | .keyring reason => .keyring reason
  | .unwritable reason => .unwritable reason
  | .unloadable fault => .settings fault
  | .storage reason => .storage reason

end Fault

end DevicePanel.Console
