import DevicePanel.Settings.Fault
import DevicePanel.Settings
import DevicePanel.Toml.Printer

/-!
# Saving settings

Settings are written as a document with a section for the defaults and one for each profile.
-/

namespace DevicePanel.Settings

open Toml (Scalar Section)

def greatestNumber : Nat := 0x7FFFFFFFFFFFFFFF

def numberScalar (n : Nat) : Except Fault Scalar :=
  if n ≤ greatestNumber then .ok (.natural n)
  else .error (.unwritable "out-of-range value for u64 type")

def Defaults.pairs (defaults : Defaults) : Except Fault (List (String × Scalar)) := do
  let timeout ← numberScalar defaults.timeout
  let dispatchTimeout ← numberScalar defaults.dispatchTimeout
  return [("output", .text defaults.output), ("color", .text defaults.color),
    ("insecure", .bool defaults.insecure), ("timeout", timeout),
    ("dispatch_timeout", dispatchTimeout)]

def optionalPair {α : Type} (key : String) (write : α → Except Fault Scalar) :
    Option α → Except Fault (List (String × Scalar))
  | none => .ok []
  | some value => (write value).map fun scalar => [(key, scalar)]

def textScalar (text : String) : Except Fault Scalar := .ok (.text text)

def Profile.pairs (profile : Profile) : Except Fault (List (String × Scalar)) := do
  let token ← optionalPair "token" textScalar profile.token
  let tokenVariable ← optionalPair "token_env" textScalar profile.tokenVariable
  let certificate ← optionalPair "ca_cert" textScalar profile.certificate
  let insecure ← optionalPair "insecure" (fun value => .ok (.bool value)) profile.insecure
  let timeout ← optionalPair "timeout" numberScalar profile.timeout
  let dispatchTimeout ← optionalPair "dispatch_timeout" numberScalar profile.dispatchTimeout
  let policy ← optionalPair "dispatch_policy" (textScalar ∘ OverlapPolicy.name) profile.policy
  let encoding ← optionalPair "body_encoding" (textScalar ∘ BodyEncoding.name) profile.encoding
  return ("server", .text profile.server) :: token ++ tokenVariable ++ certificate ++ insecure ++
    timeout ++ dispatchTimeout ++ policy ++ encoding

def profileSections : Keyed Profile → Except Fault (List Section)
  | [] => .ok []
  | (name, profile) :: others =>
      match profile.pairs with
      | .error fault => .error fault
      | .ok pairs => (profileSections others).map (⟨["profiles", name], pairs⟩ :: ·)

def sections (settings : Settings) : Except Fault (List Section) := do
  let defaults ← settings.defaults.pairs
  let profiles ← profileSections settings.profiles
  let head := match settings.defaultProfile with
    | some name => [⟨[], [("default_profile", .text name)]⟩]
    | none => []
  let profiles := if profiles.isEmpty then [⟨["profiles"], []⟩] else profiles
  return head ++ ⟨["defaults"], defaults⟩ :: profiles

def document (settings : Settings) : Except Fault String :=
  settings.sections.map fun sections => String.ofList (Toml.writeDocument sections)

end DevicePanel.Settings
