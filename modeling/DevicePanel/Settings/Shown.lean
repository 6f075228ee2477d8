import DevicePanel.Settings
import DevicePanel.Json.Value

/-!
# Showing settings

Tokens are masked wherever settings are shown: in a value by the keys of its objects, in the text
when the line of a token is written.
-/

namespace DevicePanel.Settings

/-- What stands in the place of a token. -/
def mask : String := "****"

/-! ## As values -/

def optionalValue {α : Type} (write : α → Json.Value) : Option α → Json.Value
  | none => .null
  | some value => write value

def numberValue (n : Nat) : Json.Value := .whole n

/-- The fields in the order of their names. -/
def Defaults.toJson (defaults : Defaults) : Json.Value :=
  .object [("color", .text defaults.color),
    ("dispatch_timeout", numberValue defaults.dispatchTimeout),
    ("insecure", .bool defaults.insecure), ("output", .text defaults.output),
    ("timeout", numberValue defaults.timeout)]

/-- The fields in the order of their names. -/
def Profile.toJson (profile : Profile) : Json.Value :=
  .object [("body_encoding", optionalValue (.text ·.name) profile.encoding),
    ("ca_cert", optionalValue .text profile.certificate),
    ("dispatch_policy", optionalValue (.text ·.name) profile.policy),
    ("dispatch_timeout", optionalValue numberValue profile.dispatchTimeout),
    ("insecure", optionalValue .bool profile.insecure), ("server", .text profile.server),
    ("timeout", optionalValue numberValue profile.timeout),
    ("token", optionalValue .text profile.token),
    ("token_env", optionalValue .text profile.tokenVariable)]

/-- The fields in the order of their names. -/
def toJson (settings : Settings) : Json.Value :=
  .object [("default_profile", optionalValue .text settings.defaultProfile),
    ("defaults", settings.defaults.toJson),
    ("profiles", .object (settings.profiles.map fun (name, profile) => (name, profile.toJson)))]

/-- The value of a profile with its token masked, if it has one. -/
def maskToken : Json.Value → Json.Value :=
  .changeUnder "token" fun
    | .null => .null
    | _ => .text mask

/-- Settings as a value with all tokens masked. -/
def maskedJson (settings : Settings) : Json.Value :=
  settings.toJson.changeUnder "profiles" (.changeAll maskToken)

/-! ## As text -/

/-- A line that gives a key a text between quotes, as it is. -/
def textLine (key value : String) : String := key ++ " = \"" ++ value ++ "\""

def numberLine (key : String) (value : Nat) : String := key ++ " = " ++ toString value

def flagLine (key : String) (value : Bool) : String :=
  key ++ " = " ++ (if value then "true" else "false")

/-- The line of a value, if there is one. -/
def optionalLine {α : Type} (write : String → α → String) (key : String) (value : Option α) :
    List String :=
  (value.map (write key)).toList

def Defaults.lines (defaults : Defaults) : List String :=
  ["[defaults]", textLine "output" defaults.output, textLine "color" defaults.color,
    flagLine "insecure" defaults.insecure, numberLine "timeout" defaults.timeout,
    numberLine "dispatch_timeout" defaults.dispatchTimeout]

/-- The lines of a profile; that of a token shows that there is one, and no more. -/
def Profile.lines (name : String) (profile : Profile) : List String :=
  ["[profiles." ++ name ++ "]", textLine "server" profile.server] ++
    optionalLine textLine "token" (profile.token.map fun _ => mask) ++
    optionalLine textLine "token_env" profile.tokenVariable ++
    optionalLine textLine "ca_cert" profile.certificate ++
    optionalLine flagLine "insecure" profile.insecure ++
    optionalLine numberLine "timeout" profile.timeout ++
    optionalLine numberLine "dispatch_timeout" profile.dispatchTimeout ++
    optionalLine textLine "dispatch_policy" (profile.policy.map OverlapPolicy.name) ++
    optionalLine textLine "body_encoding" (profile.encoding.map BodyEncoding.name)

/-- The lines of all settings, with an empty one before each part. -/
def lines (settings : Settings) : List String :=
  optionalLine textLine "default_profile" settings.defaultProfile ++
    "" :: settings.defaults.lines ++
    settings.profiles.flatMap fun (name, profile) => "" :: profile.lines name

/-- The text of all settings; every line has an end. -/
def listing (settings : Settings) : String :=
  String.join (settings.lines.map fun line => line ++ "\n")

end DevicePanel.Settings
