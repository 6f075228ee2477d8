import DevicePanel.Console.Connect
import DevicePanel.Console.Report
import DevicePanel.Console.Surroundings
import DevicePanel.Number.Natural
import DevicePanel.Settings.Save
import DevicePanel.Settings.Shown

/-!
# Showing and changing the settings

None of these orders needs a hub.
-/

namespace DevicePanel.Console

open DevicePanel.Settings (Profile)

/-! ## Changing one value of a profile -/

/-- The keys that can be set, for a refusal. -/
def settableKeys : String :=
  "server, token_env, insecure, timeout, dispatch_timeout, dispatch_policy, body_encoding, ca_cert"

/-- A value that a text names, or a refusal with a hint. -/
def valueOr {α : Type} (field hint : String) : Option α → Except Fault α
  | some value => .ok value
  | none => .error (.invalid field hint)

def flagOf? : String → Option Bool
  | "true" => some true
  | "false" => some false
  | _ => none

/-- A number of seconds, or a refusal. -/
def secondsOr (field text : String) : Except Fault Nat :=
  valueOr field "must be a number (seconds)" (Number.natural64 text).toOption

/-- A profile with the value of a key changed.  A key may be written with dashes. -/
def setValue (profile : Profile) (key text : String) : Except Fault Profile :=
  match key with
  | "server" =>
      match Settings.serverUrl text with
      | .error fault => .error (.ofSettings fault)
      | .ok _ => .ok { profile with server := text }
  | "token_env" | "token-env" => .ok { profile with tokenVariable := some text }
  | "insecure" =>
      (valueOr "insecure" "must be 'true' or 'false'" (flagOf? text)).map fun value =>
        { profile with insecure := some value }
  | "timeout" =>
      (secondsOr "timeout" text).map fun value => { profile with timeout := some value }
  | "dispatch_timeout" | "dispatch-timeout" =>
      (secondsOr "dispatch_timeout" text).map fun value =>
        { profile with dispatchTimeout := some value }
  | "dispatch_policy" | "dispatch-policy" =>
      (valueOr "dispatch_policy" "must be 'supersede' or 'last-response-wins'"
        (OverlapPolicy.ofName? text)).map fun value => { profile with policy := some value }
  | "body_encoding" | "body-encoding" =>
      (valueOr "body_encoding" "must be 'json' or 'form'"
        (BodyEncoding.choices.lookup text)).map fun value => { profile with encoding := some value }
  | "ca_cert" | "ca-cert" => .ok { profile with certificate := some text }
  | other =>
      .error (.invalid other
        ("unknown config key '" ++ other ++ "'. Valid keys: " ++ settableKeys))

def save (settings : Settings) (remark : String) : Outcome :=
  match settings.document with
  | .error fault => .failed (.ofSettings fault)
  | .ok text => { Outcome.ofRemark ("✓ " ++ remark) with written := some text }

/-- Change one value of the profile in use, which is made if it is not there. -/
def setKey (options : Options) (settings : Settings) (key text : String) : Outcome :=
  let name := profileName options settings
  let profile := (settings.profiles.find? name).getD (.ofServer "")
  match setValue profile key text with
  | .error fault => .failed fault
  | .ok changed =>
      save { settings with profiles := settings.profiles.put name changed }
        ("Set " ++ key ++ " on profile '" ++ name ++ "'")

def makeDefault (settings : Settings) (name : String) : Outcome :=
  match settings.profile? name with
  | .error fault => .failed (.ofSettings fault)
  | .ok _ =>
      save { settings with defaultProfile := some name }
        ("Default profile set to '" ++ name ++ "'")

/-! ## Showing -/

/-- The settings in a form; tokens are masked. -/
def settingsReport (form : OutputForm) (path : String) (settings : Settings) : String :=
  match structured settings.maskedJson form, form with
  | some text, _ => text
  | none, .plain => path
  | none, _ => settings.listing

/-- The names of the profiles, a line each; the one in use when none is named has a mark. -/
def profileList (settings : Settings) : Outcome :=
  if settings.profiles.isEmpty then
    .ofRemark "No profiles configured. Run: devgrid config init"
  else
    .ofOutput (String.join (settings.profileNames.map fun name =>
      name ++ (if name = settings.defaultProfileName then " *" else "") ++ "\n"))

/-! ## Questions

A question needs a terminal to ask it on, and there is none. -/

/-- A question could not be asked. -/
def unasked (reason : String) : Fault := .invalid "interactive" ("prompt failed: " ++ reason)

def askProfile (path : String) : Outcome :=
  { Outcome.failed (unasked "IO error: not a terminal") with
    remarks := "devgrid configuration wizard\n   Config path: " ++ path ++ "\n\n" }

def askToken (options : Options) (settings : Settings) (name : Option String) : Outcome :=
  match settings.profile? (name.getD (profileName options settings)) with
  | .error fault => .failed (.ofSettings fault)
  | .ok _ => .failed (unasked "No such device or address (os error 6)")

def SettingsOrder.obey (order : SettingsOrder) (options : Options)
    (surroundings : Surroundings) : Outcome :=
  let path := settingsPath surroundings.home
  let settings := Settings.loadOrUsual surroundings.file surroundings.environment
  match order with
  | .init => askProfile path
  | .show => .shown options.quiet (settingsReport options.output path settings)
  | .path => .shown options.quiet path
  | .set key text => setKey options settings key text
  | .profiles => profileList settings
  | .use name => makeDefault settings name
  | .setToken name => askToken options settings name

end DevicePanel.Console
