import DevicePanel.Keyed

/-!
# What a command line may say

A command line names commands, one inside the other, with switches between them and operands
after the last one.  The same switches may stand at every level.
-/

namespace DevicePanel.CommandLine

/-- What the value of a switch or an operand must look like. -/
inductive Form where
  | text
  /-- The path of a file, which is never empty. -/
  | path
  /-- A natural number of 64 bits. -/
  | number
  | oneOf (names : List String)
deriving Repr, DecidableEq

/-- What a switch does. -/
inductive Effect where
  | takes (form : Form)
  /-- It can be on or off. -/
  | sets
  | counts
  | asksHelp
  | asksVersion
deriving Repr, DecidableEq

structure Switch where
  name : String
  letter : Option Char
  effect : Effect
  /-- The variable of the environment that counts where the switch does not stand. -/
  substitute : Option String
  /-- The value that counts where neither stands. -/
  usual : Option String
deriving Repr, DecidableEq

def standardSwitches : List Switch :=
  [⟨"help", some 'h', .asksHelp, none, none⟩, ⟨"version", some 'V', .asksVersion, none, none⟩]

/-- A value without a switch. -/
structure Operand where
  name : String
  form : Form
  required : Bool
deriving Repr, DecidableEq

/-- A command, with its operands or the commands inside it. -/
inductive Command where
  | mk (name : String) (aliases : List String) (operands : List Operand) (inside : List Command)

namespace Command

def name : Command → String
  | mk name _ _ _ => name

def aliases : Command → List String
  | mk _ aliases _ _ => aliases

def operands : Command → List Operand
  | mk _ _ operands _ => operands

/-- The commands inside a command. -/
def inside : Command → List Command
  | mk _ _ _ inside => inside

/-- The command inside that a word names. -/
def find? (command : Command) (word : String) : Option Command :=
  command.inside.find? fun inner => inner.name == word || inner.aliases.contains word

end Command

/-- All that a program understands. -/
structure Grammar where
  switches : List Switch
  root : Command
  version : String

def Switch.label (switch : Switch) : String :=
  match switch.effect with
  | .takes _ =>
      let value := switch.name.map fun c => if c == '-' then '_' else c.toUpper
      "--" ++ switch.name ++ " <" ++ value ++ ">"
  | _ => "--" ++ switch.name

def Operand.label (operand : Operand) : String := "<" ++ operand.name ++ ">"

/-- Why a command line is not obeyed. -/
inductive Refusal where
  | help
  | version (text : String)
  /-- A command was left out, and nothing else was said: help is shown. -/
  | nothingSaid
  | commandMissing (command : String)
  | unknownCommand (word : String)
  | unknownArgument (word : String)
  | operandMissing
  | repeated (label : String)
  | valueUnwanted (label value : String)
  | valueMissing (label : String)
  | badChoice (label value : String)
  | badNumber (label value reason : String)
deriving Repr, DecidableEq

namespace Refusal

/-- The status with which the program ends. -/
def exitCode : Refusal → Nat
  | .help | .version _ => 0
  | _ => 2

/-- The text of a refusal; help has a text of its own. -/
def message? : Refusal → Option String
  | .help | .nothingSaid => none
  | .version text => some text
  | .commandMissing command =>
      some ("error: '" ++ command ++ "' requires a subcommand but one was not provided")
  | .unknownCommand word => some ("error: unrecognized subcommand '" ++ word ++ "'")
  | .unknownArgument word => some ("error: unexpected argument '" ++ word ++ "' found")
  | .operandMissing => some "error: the following required arguments were not provided:"
  | .repeated label => some ("error: the argument '" ++ label ++ "' cannot be used multiple times")
  | .valueUnwanted label value =>
      some ("error: unexpected value '" ++ value ++ "' for '" ++ label ++
        "' found; no more were expected")
  | .valueMissing label =>
      some ("error: a value is required for '" ++ label ++ "' but none was supplied")
  | .badChoice label value => some ("error: invalid value '" ++ value ++ "' for '" ++ label ++ "'")
  | .badNumber label value reason =>
      some ("error: invalid value '" ++ value ++ "' for '" ++ label ++ "': " ++ reason)

def headline? (refusal : Refusal) : Option String :=
  refusal.message?.map fun text =>
    let line := text.toList.takeWhile (· != '\n')
    String.ofList (if line.getLast? = some '\r' then line.dropLast else line)

end Refusal

end DevicePanel.CommandLine
