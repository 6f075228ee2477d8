import DevicePanel.Number.Layout
import DevicePanel.Text.Hidden

/-!
# Why settings are refused

Settings come in layers: what is built in, what the file says, what the environment says.  A
`LoadFault` tells which value of which layer was of no use and why.
-/

namespace DevicePanel.Settings

open DevicePanel.Number (Binary64 Layout)

/-- Where a value comes from. -/
inductive Layer where
  | builtIn
  | file
  | environment
deriving Repr, DecidableEq, Inhabited

def Layer.name : Layer → String
  | .builtIn => "defaults"
  | .file => "TOML file"
  | .environment => "`DEVGRID_` environment variable(s)"

/-- A value of no use. -/
inductive Found where
  | bool (value : Bool)
  | signed (value : Int)
  | unsigned (value : Nat)
  | real (value : Binary64)
  | text (value : String)
  | list
  | table
deriving Repr, DecidableEq

def Found.describe : Found → String
  | .bool true => "bool true"
  | .bool false => "bool false"
  | .signed n => "signed int `" ++ toString n ++ "`"
  | .unsigned n => "unsigned int `" ++ toString n ++ "`"
  | .real x => "float `" ++ Layout.plain.write x ++ "`"
  | .text s => "string " ++ Text.shown s
  | .list => "sequence"
  | .table => "map"

inductive LoadCause where
  /-- The file is no TOML document. -/
  | unreadable
  | wrongType (found : Found) (expected : String)
  | wrongValue (found : Found) (expected : String)
  | wrongLength (count : Nat) (expected : String)
  | unknownChoice (name : String) (choices : List String)
  | fieldMissing (name : String)
  | other (reason : String)
deriving Repr, DecidableEq

def LoadCause.message : LoadCause → String
  | .unreadable => "TOML parse error"
  | .wrongType found expected => "invalid type: found " ++ found.describe ++ ", expected " ++ expected
  | .wrongValue found expected => "invalid value " ++ found.describe ++ ", expected " ++ expected
  | .wrongLength count expected => "invalid length " ++ toString count ++ ", expected " ++ expected
  | .unknownChoice name choices =>
      "unknown variant: found `" ++ name ++ "`, expected `" ++
        " or ".intercalate (choices.map fun choice => "`" ++ choice ++ "`") ++ "`"
  | .fieldMissing name => "missing field `" ++ name ++ "`"
  | .other reason => reason

/-- A cause, the keys that lead to the value and the layer of the value. -/
structure LoadFault where
  cause : LoadCause
  path : List String
  layer : Option Layer
deriving Repr, DecidableEq

/-- The fault as seen from a table that holds the value under a key. -/
def LoadFault.under (key : String) (fault : LoadFault) : LoadFault :=
  { fault with path := key :: fault.path }

/-- Why something could not be done with settings. -/
inductive Fault where
  | invalid (field reason : String)
  | profileUnknown (name : String) (available : List String)
  | keyring (reason : String)
  | unwritable (reason : String)
  | unloadable (fault : LoadFault)
  | storage (reason : String)
deriving Repr, DecidableEq

def loadingFailed : String := "config loading failed"

def Fault.message : Fault → String
  | .invalid field reason => "invalid " ++ field ++ ": " ++ reason
  | .profileUnknown name _ => "profile '" ++ name ++ "' not found"
  | .keyring reason => "keyring error: " ++ reason
  | .unwritable reason => "failed to serialize config: " ++ reason
  | .unloadable fault => loadingFailed ++ ": " ++ fault.cause.message
  | .storage reason => "IO error: " ++ reason

end DevicePanel.Settings
