import DevicePanel.Console.Fault
import DevicePanel.Console.Options
import DevicePanel.Settings.Keyring
import DevicePanel.Hub.Client

/-!
# Where an invocation takes place and what it leaves behind
-/

namespace DevicePanel.Console

/-- All that an invocation can see. -/
structure Surroundings where
  home : String
  /-- The text of the settings file, if there is one. -/
  file : Option String
  environment : Environment
  keyring : Keyring
  terminal : Bool
  network : Hub.Network
  certificates : Hub.Client.Certificates

/-- What an invocation leaves behind. -/
structure Outcome where
  /-- The results. -/
  output : String
  /-- What is told about the work. -/
  remarks : String
  /-- The new text of the settings file, if it was written. -/
  written : Option String
  sent : List Hub.Request
  failure : Option Fault

namespace Outcome

def nothing : Outcome := ⟨"", "", none, [], none⟩

def failed (fault : Fault) : Outcome := { nothing with failure := some fault }

def ofOutput (text : String) : Outcome := { nothing with output := text }

def ofRemark (line : String) : Outcome := { nothing with remarks := line ++ "\n" }

/-- A result, which is not shown when quiet is wished, nor when it is empty. -/
def shown (quiet : Bool) (text : String) : Outcome :=
  if quiet || text.isEmpty then nothing else ofOutput (text ++ "\n")

/-- The status with which the program ends. -/
def exitCode (outcome : Outcome) : Nat :=
  match outcome.failure with
  | none => 0
  | some fault => fault.exitCode

end Outcome

end DevicePanel.Console
