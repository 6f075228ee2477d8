import DevicePanel.Settings.Decode
import DevicePanel.Settings.Variable
import DevicePanel.Toml.Reader

/-!
# Loading settings

The environment is laid over the file, and the file over what is built in.
-/

namespace DevicePanel.Settings

/-- What holds when neither the file nor the environment says anything. -/
def builtIn : Datum :=
  let text (value : String) := Datum.text .builtIn value
  .table .builtIn [
    ("default_profile", text usualProfile),
    ("defaults", .table .builtIn [
      ("color", text Defaults.usual.color),
      ("dispatch_timeout", .unsigned .builtIn Defaults.usual.dispatchTimeout),
      ("insecure", .bool .builtIn Defaults.usual.insecure),
      ("output", text Defaults.usual.output),
      ("timeout", .unsigned .builtIn Defaults.usual.timeout)]),
    ("profiles", .table .builtIn [])]

/-- What the file says; a file that is not there says nothing. -/
def fileLayer (file : Option String) : Except LoadFault Datum :=
  match file with
  | none => .ok (.table .file [])
  | some text =>
      match Toml.ofText? text with
      | some members => .ok (Datum.ofToml (.table members))
      | none => .error ⟨.unreadable, [], some .file⟩

/-- All layers, one over the other. -/
def layers (file : Option String) (environment : Environment) : Except LoadFault Datum :=
  (fileLayer file).map fun written =>
    (builtIn.overlay written).overlay (Variable.layer environment)

def load (file : Option String) (environment : Environment) : Except LoadFault Settings :=
  match layers file environment with
  | .error fault => .error fault
  | .ok datum => datum.toSettings

/-- The settings, or the usual ones if they cannot be loaded. -/
def loadOrUsual (file : Option String) (environment : Environment) : Settings :=
  match load file environment with
  | .ok settings => settings
  | .error _ => usual

end DevicePanel.Settings
