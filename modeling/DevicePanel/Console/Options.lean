import DevicePanel.CommandLine.Matching
import DevicePanel.Hub.Client
import DevicePanel.Policy

/-!
# What the command-line program is asked to do

The options, which may stand at every level of a command line, and the orders.
-/

namespace DevicePanel.Console

open CommandLine (Form Switch Operand Command Grammar Meaning Refusal)

/-- How results are written. -/
inductive OutputForm where
  | table
  | json
  | jsonCompact
  | yaml
  | plain
deriving Repr, DecidableEq

namespace OutputForm

def choices : List (String × OutputForm) :=
  [("table", .table), ("json", .json), ("json-compact", .jsonCompact), ("yaml", .yaml),
    ("plain", .plain)]

end OutputForm

/-- When results have colours. -/
inductive Colouring where
  | auto
  | always
  | never
deriving Repr, DecidableEq

namespace Colouring

def choices : List (String × Colouring) :=
  [("auto", .auto), ("always", .always), ("never", .never)]

end Colouring

/-- The options of an invocation; times are in seconds. -/
structure Options where
  profile : Option String
  server : Option String
  token : Option String
  output : OutputForm
  colouring : Colouring
  verbosity : Nat
  quiet : Bool
  insecure : Bool
  timeout : Option Nat
  dispatchTimeout : Option Nat
  encoding : Option BodyEncoding
deriving Repr, DecidableEq

/-- What is to be done with the settings. -/
inductive SettingsOrder where
  | init
  | show
  | path
  | set (key value : String)
  | profiles
  | use (name : String)
  /-- Keep a token in the keyring, for the profile in use if none is named. -/
  | setToken (name : Option String)
deriving Repr, DecidableEq

/-- What is to be done. -/
inductive Order where
  | list
  | command (device command : String)
  | settings (order : SettingsOrder)
  | completions (shell : String)
deriving Repr, DecidableEq

/-! ## The grammar -/

def switches : List Switch :=
  let names {α : Type} (choices : List (String × α)) := Form.oneOf (choices.map Prod.fst)
  [⟨"profile", some 'p', .takes .text, some "DEVGRID_PROFILE", none⟩,
    ⟨"server", some 's', .takes .text, some "DEVGRID_SERVER", none⟩,
    ⟨"token", none, .takes .text, some "DEVGRID_TOKEN", none⟩,
    ⟨"output", some 'o', .takes (names OutputForm.choices), some "DEVGRID_OUTPUT", some "table"⟩,
    ⟨"color", none, .takes (names Colouring.choices), none, some "auto"⟩,
    ⟨"verbose", some 'v', .counts, none, some "0"⟩,
    ⟨"quiet", some 'q', .sets, none, some "false"⟩,
    ⟨"insecure", some 'k', .sets, some "DEVGRID_INSECURE", some "false"⟩,
    ⟨"timeout", none, .takes .number, some "DEVGRID_TIMEOUT", none⟩,
    ⟨"dispatch-timeout", none, .takes .number, some "DEVGRID_DISPATCH_TIMEOUT", none⟩,
    ⟨"body-encoding", none, .takes (names BodyEncoding.choices), some "DEVGRID_BODY_ENCODING",
      none⟩] ++ CommandLine.standardSwitches

def shells : List String := ["bash", "elvish", "fish", "powershell", "zsh"]

/-- The commands of the program, one inside the other. -/
def root : Command :=
  let leaf (name : String) (aliases : List String) (operands : List Operand) :=
    Command.mk name aliases operands []
  let text (name : String) : Operand := ⟨name, .text, true⟩
  .mk Program.name [] [] [
    .mk "devices" ["dev", "d"] [] [
      leaf "list" ["ls"] [],
      leaf "command" ["cmd", "run"] [text "ID", text "COMMAND"]],
    .mk "config" [] [] [
      leaf "init" [] [], leaf "show" [] [], leaf "path" [] [],
      leaf "set" [] [text "KEY", text "VALUE"],
      leaf "profiles" [] [],
      leaf "use" [] [text "NAME"],
      leaf "set-token" [] [⟨"NAME", .text, false⟩]],
    leaf "completions" [] [⟨"SHELL", .oneOf shells, true⟩]]

def grammar : Grammar := ⟨switches, root, Program.version⟩

/-! ## From words to options and orders -/

def choice? {α : Type} (meaning : Meaning) (name : String) (choices : List (String × α)) :
    Option α :=
  (meaning.value? name).bind fun text => choices.lookup text

def Options.ofMeaning (meaning : Meaning) : Options where
  profile := meaning.value? "profile"
  server := meaning.value? "server"
  token := meaning.value? "token"
  output := (choice? meaning "output" OutputForm.choices).getD .table
  colouring := (choice? meaning "color" Colouring.choices).getD .auto
  verbosity := (meaning.number? "verbose").getD 0
  quiet := meaning.isOn "quiet"
  insecure := meaning.isOn "insecure"
  timeout := meaning.number? "timeout"
  dispatchTimeout := meaning.number? "dispatch-timeout"
  encoding := choice? meaning "body-encoding" BodyEncoding.choices

/-- The order that a command line gives; it always gives one. -/
def Order.ofMeaning (meaning : Meaning) : Order :=
  let value (name : String) := (meaning.value? name).getD ""
  match meaning.commands with
  | ["devices", "list"] => .list
  | ["devices", _] => .command (value "ID") (value "COMMAND")
  | ["config", "init"] => .settings .init
  | ["config", "path"] => .settings .path
  | ["config", "set"] => .settings (.set (value "KEY") (value "VALUE"))
  | ["config", "profiles"] => .settings .profiles
  | ["config", "use"] => .settings (.use (value "NAME"))
  | ["config", "set-token"] => .settings (.setToken (meaning.value? "NAME"))
  | ["completions"] => .completions (value "SHELL")
  | _ => .settings .show

def understand (environment : Keyed String) (words : List String) :
    Except Refusal (Options × Order) :=
  (CommandLine.understand grammar environment words).map fun meaning =>
    (.ofMeaning meaning, .ofMeaning meaning)

end DevicePanel.Console
