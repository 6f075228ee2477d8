import DevicePanel.Console.Run

/-!
# The command-line program

All that is left to do here is to look at the surroundings, and to show and keep what an
invocation leaves behind.
-/

namespace DevicePanel.Console

/-- The text of a file, if there is one. -/
def readText (path : String) : IO (Option String) := do
  try
    return some (← IO.FS.readFile path)
  catch _ =>
    return none

/-- A variable of the environment from its name and its value around an equals sign. -/
def variableOf (entry : List Char) : Option (String × String) :=
  match entry.dropWhile (· != '=') with
  | [] => none
  | _ :: value => some (String.ofList (entry.takeWhile (· != '=')), String.ofList value)

/-- The variables of a text in which each one ends with a null character. -/
def variablesOf (text : String) : Environment :=
  Keyed.ofPairs ((text.toList.splitOn '\x00').filterMap variableOf)

end DevicePanel.Console

open DevicePanel

/-- Run an invocation; no network is at hand, so that every hub is out of reach. -/
def main (words : List String) : IO UInt32 := do
  let home := (← IO.getEnv "HOME").getD ""
  let path := Console.settingsPath home
  let environment := Console.variablesOf ((← Console.readText "/proc/self/environ").getD "")
  let output ← IO.getStdout
  let remarks ← IO.getStderr
  let surroundings : Console.Surroundings := {
    home := home
    file := ← Console.readText path
    environment := environment
    keyring := ⟨[], none⟩
    terminal := ← output.isTty
    network := fun _ => .refused
    certificates := fun _ => .error "No such file or directory (os error 2)" }
  match Console.run surroundings words with
  | .error refusal =>
      match refusal.message? with
      | some text => if refusal.exitCode = 0 then output.putStrLn text else remarks.putStrLn text
      | none => pure ()
      return UInt32.ofNat refusal.exitCode
  | .ok outcome =>
      output.putStr outcome.output
      remarks.putStr outcome.remarks
      match outcome.written with
      | some text =>
          IO.FS.createDirAll (home ++ "/cfg/devgrid")
          IO.FS.writeFile path text
      | none => pure ()
      match outcome.failure with
      | some fault =>
          remarks.putStrLn fault.message
          match fault.help? with
          | some help => remarks.putStrLn help
          | none => pure ()
      | none => pure ()
      return UInt32.ofNat outcome.exitCode
