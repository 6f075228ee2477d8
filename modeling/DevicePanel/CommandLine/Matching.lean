import DevicePanel.CommandLine.Grammar
import DevicePanel.Number.Natural

/-!
# Understanding a command line

The words are read from left to right, level by level.  A switch that takes a value waits for
the next word; its value is looked at when the next argument begins or when the level ends.  The
innermost level ends first: it is completed from the environment and checked before the level
around it is.
-/

namespace DevicePanel.CommandLine

/-- Where the value of an argument comes from; a later source counts more. -/
inductive Source where
  | usual
  | environment
  | words
deriving Repr, DecidableEq

def Source.weight : Source → Nat
  | .usual => 0
  | .environment => 1
  | .words => 2

/-- The value of an argument as a text. -/
structure Found where
  source : Source
  value : String
deriving Repr, DecidableEq

/-- An argument whose value has not been looked at. -/
inductive Waiting where
  | switch (switch : Switch) (value : Option String)
  | operand (operand : Operand) (value : String)
deriving Repr, DecidableEq

/-- What is known of a level while its words are read. -/
structure Level where
  found : Keyed Found
  waiting : Option Waiting
  operands : Nat
  /-- Whether all that follows is an operand. -/
  operandsOnly : Bool
deriving Repr

def Level.start : Level := ⟨[], none, 0, false⟩

def Form.check (form : Form) (label value : String) : Except Refusal Unit :=
  match form with
  | .text => .ok ()
  | .path => if value.isEmpty then .error (.valueMissing label) else .ok ()
  | .number =>
      match Number.natural64 value with
      | .ok _ => .ok ()
      | .error fault => .error (.badNumber label value fault.message)
  | .oneOf names =>
      if names.contains value then .ok ()
      else if value.isEmpty then .error (.valueMissing label)
      else .error (.badChoice label value)

namespace Level

/-- Note the value of an argument that may stand only once. -/
def note (level : Level) (name label : String) (form : Form) (source : Source) (value : String) :
    Except Refusal Level :=
  if (level.found.find? name).isSome then .error (.repeated label)
  else (form.check label value).map fun _ =>
    { level with found := level.found.put name ⟨source, value⟩ }

def greatestCount : Nat := 255

/-- Obey a switch; `title` is what the version is told of. -/
def obey (title : String) (grammar : Grammar) (level : Level) (switch : Switch) (source : Source)
    (value : Option String) : Except Refusal Level :=
  match switch.effect with
  | .takes form =>
      match value with
      | none => .error (.valueMissing switch.label)
      | some value => level.note switch.name switch.label form source value
  | .sets => level.note switch.name switch.label (.oneOf ["true", "false"]) source (value.getD "true")
  | .counts =>
      let count := ((level.found.find? switch.name).bind fun found => found.value.toNat?).getD 0
      let next := toString (min greatestCount (count + 1))
      .ok { level with found := level.found.put switch.name ⟨source, next⟩ }
  | .asksHelp => .error .help
  | .asksVersion => .error (.version (title ++ " " ++ grammar.version))

/-- Look at the value of the argument that waits. -/
def settle (title : String) (grammar : Grammar) (level : Level) : Except Refusal Level :=
  let settled := { level with waiting := none }
  match level.waiting with
  | none => .ok level
  | some (.switch switch value) => settled.obey title grammar switch .words value
  | some (.operand operand value) =>
      settled.note operand.name operand.label operand.form .words value

/-- Take in a switch with the value that is attached to it, if any. -/
def takeSwitch (title : String) (grammar : Grammar) (level : Level) (switch : Switch)
    (attached : Option String) : Except Refusal Level := do
  let level ← level.settle title grammar
  match switch.effect, attached with
  | .takes _, none => return { level with waiting := some (.switch switch none) }
  | _, _ => level.obey title grammar switch .words attached

def awaitsValue (level : Level) : Bool :=
  match level.waiting with
  | some (.switch _ none) => true
  | _ => false

/-- Take in a word after two dashes: a name, and a value after an equals sign. -/
def takeLong (title : String) (grammar : Grammar) (level : Level) (word : List Char) :
    Except Refusal Level :=
  let name := String.ofList (word.takeWhile (· != '='))
  let attached := match word.dropWhile (· != '=') with
    | [] => none
    | _ :: value => some (String.ofList value)
  match grammar.switches.find? fun switch => switch.name == name with
  | none => .error (.unknownArgument ("--" ++ name))
  | some switch =>
      match switch.effect, attached with
      | .takes _, _ => level.takeSwitch title grammar switch attached
      | _, some value => .error (.valueUnwanted switch.label value)
      | _, none => level.takeSwitch title grammar switch none

/-- Take in the letters after a dash; the first of a switch that takes a value has the rest of
the word as its value. -/
def takeLetters (title : String) (grammar : Grammar) (level : Level) :
    List Char → Except Refusal Level
  | [] => .ok level
  | letter :: rest =>
      match grammar.switches.find? fun switch => switch.letter == some letter with
      | none => .error (.unknownArgument (String.ofList ['-', letter]))
      | some switch =>
          match switch.effect with
          | .takes _ =>
              let attached := match rest with
                | [] => none
                | '=' :: value => some (String.ofList value)
                | value => some (String.ofList value)
              level.takeSwitch title grammar switch attached
          | _ => (level.takeSwitch title grammar switch none).bind fun level =>
              takeLetters title grammar level rest

def takeOperand (title : String) (grammar : Grammar) (command : Command) (level : Level)
    (word : String) : Except Refusal Level :=
  match command.operands[level.operands]? with
  | some operand => do
      let level ← level.settle title grammar
      return { level with waiting := some (.operand operand word), operands := level.operands + 1 }
  | none =>
      if level.operandsOnly && (word == "help" || (command.find? word).isSome) &&
          !command.inside.isEmpty then
        .error (.unknownArgument word)
      else if command.inside.isEmpty then .error (.unknownArgument word)
      else .error (.unknownCommand word)

end Level

/-- What is said after the word `help`: commands, one inside the other. -/
def helpOn (command : Command) : List String → Refusal
  | [] => .help
  | word :: words =>
      match command.find? word with
      | some inner => helpOn inner words
      | none =>
          if word == "help" && !command.inside.isEmpty then
            match words with
            | [] => .help
            | next :: _ => .unknownCommand next
          else .unknownCommand word

/-- Read the words of a level up to the name of a command inside. -/
def readLevel (title : String) (grammar : Grammar) (command : Command) (level : Level) :
    List String → Except Refusal (Level × Option (Command × List String))
  | [] => .ok (level, none)
  | word :: words =>
      let goOn (next : Except Refusal Level) := next.bind fun level =>
        readLevel title grammar command level words
      if level.operandsOnly then goOn (level.takeOperand title grammar command word)
      else if word == "help" && !command.inside.isEmpty && !level.awaitsValue then
        .error (helpOn command words)
      else
        match if level.awaitsValue then none else command.find? word with
        | some inner => .ok (level, some (inner, words))
        | none =>
            match word.toList with
            | ['-', '-'] => goOn (.ok { level with operandsOnly := true })
            | '-' :: '-' :: rest => goOn (level.takeLong title grammar rest)
            | '-' :: letter :: rest => goOn (level.takeLetters title grammar (letter :: rest))
            | _ =>
                match level.waiting with
                | some (.switch switch none) =>
                    goOn (.ok { level with waiting := some (.switch switch (some word)) })
                | _ => goOn (level.takeOperand title grammar command word)

/-- Take the values of variables for switches that do not stand at a level. -/
def addVariables (title : String) (grammar : Grammar) (environment : Keyed String) :
    List Switch → Level → Except Refusal Level
  | [], level => .ok level
  | switch :: switches, level =>
      match switch.substitute.bind environment.find?, level.found.find? switch.name with
      | some value, none =>
          (level.obey title grammar switch .environment (some value)).bind
            (addVariables title grammar environment switches)
      | _, _ => addVariables title grammar environment switches level

def addUsual (switches : List Switch) (level : Level) : Level :=
  switches.foldl (fun level switch =>
    match switch.usual, level.found.find? switch.name with
    | some value, none => { level with found := level.found.put switch.name ⟨.usual, value⟩ }
    | _, _ => level) level

/-- Complete and check a level; `closed` tells that a command inside follows. -/
def finishLevel (path title : String) (grammar : Grammar) (environment : Keyed String)
    (command : Command) (closed : Bool) (level : Level) : Except Refusal Level := do
  let level ← level.settle title grammar
  let level ← addVariables title grammar environment grammar.switches level
  let level := addUsual grammar.switches level
  if !closed && !command.inside.isEmpty then
    if level.found.all fun pair => pair.2.source == .usual then throw .nothingSaid
    else throw (.commandMissing path)
  if !closed && command.operands.any fun operand =>
      operand.required && (level.found.find? operand.name).isNone then
    throw .operandMissing
  return level

/-- The levels of a command line, each with the name of its command. -/
def readLevels (grammar : Grammar) (environment : Keyed String) :
    (fuel : Nat) → (path title : String) → Command → List String →
      Except Refusal (List (String × Level))
  | 0, _, _, _, _ => .ok []
  | fuel + 1, path, title, command, words => do
      let (level, next) ← readLevel title grammar command .start words
      let inner ← match next with
        | none => pure []
        | some (inner, words) =>
            readLevels grammar environment fuel (path ++ " " ++ inner.name)
              (title ++ "-" ++ inner.name) inner words
      let level ← finishLevel path title grammar environment command next.isSome level
      return (command.name, level) :: inner

/-- What a command line says: the commands inside the program, and the value of each
argument. -/
structure Meaning where
  commands : List String
  values : Keyed String
deriving Repr

/-- Lay the values of a level over those of the levels around it. -/
def overlay (outer inner : Keyed Found) : Keyed Found :=
  inner.foldl (fun found (name, value) =>
    match found.find? name with
    | some before => if value.source.weight < before.source.weight then found
        else found.put name value
    | none => found.put name value) outer

def understand (grammar : Grammar) (environment : Keyed String) (words : List String) :
    Except Refusal Meaning :=
  (readLevels grammar environment (words.length + 1) grammar.root.name grammar.root.name
    grammar.root words).map fun levels =>
      let found := levels.foldl (fun outer level => overlay outer level.2.found) []
      ⟨(levels.drop 1).map Prod.fst, found.map fun (name, value) => (name, value.value)⟩

namespace Meaning

/-- The value of an argument, if it has one. -/
def value? (meaning : Meaning) (name : String) : Option String := meaning.values.find? name

/-- Whether a switch is on. -/
def isOn (meaning : Meaning) (name : String) : Bool := meaning.value? name == some "true"

def number? (meaning : Meaning) (name : String) : Option Nat :=
  (meaning.value? name).bind fun text => (Number.natural64 text).toOption

end Meaning

end DevicePanel.CommandLine
