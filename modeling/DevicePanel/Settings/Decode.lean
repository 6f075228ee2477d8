import DevicePanel.Settings
import DevicePanel.Settings.Datum

/-!
# Understanding the values of settings

The members of a table are looked at in the order of their keys, and the first one of no use is
the one that is refused.  A field that must be there is missed only after that.
-/

namespace DevicePanel.Settings

namespace Datum

def wrongType (expected : String) (datum : Datum) : LoadFault :=
  ⟨.wrongType datum.found expected, [], some datum.layer⟩

def toText (expected : String) : Datum → Except LoadFault String
  | .text _ value => .ok value
  | other => .error (other.wrongType expected)

def toBool : Datum → Except LoadFault Bool
  | .bool _ value => .ok value
  | other => .error (other.wrongType "a boolean")

/-- A natural number of 64 bits. -/
def toNatural : Datum → Except LoadFault Nat
  | .unsigned _ value => .ok value
  | .signed layer value =>
      if value < 0 then .error ⟨.wrongValue (.signed value) "u64", [], some layer⟩
      else .ok value.toNat
  | other => .error (other.wrongType "u64")

/-- One of several choices of a type; a choice that is a key of a table cannot have a value. -/
def toChoice {α : Type} (type : String) (choices : List (String × α)) :
    Datum → Except LoadFault α
  | .text layer name =>
      match choices.find? fun choice => choice.1 == name with
      | some (_, value) => .ok value
      | none => .error ⟨.unknownChoice name (choices.map Prod.fst), [], some layer⟩
  | .table layer [] => .error ⟨.wrongType .table "enum", [], some layer⟩
  | .table layer ((name, value) :: _) =>
      if choices.any fun choice => choice.1 == name then
        .error ((value.wrongType "unit").under name)
      else .error ⟨.unknownChoice name (choices.map Prod.fst), [], some layer⟩
  | other => .error (other.wrongType ("enum " ++ type))

/-- The value under a key, if there is one. -/
def member {α : Type} (key : String) (read : Datum → Except LoadFault α)
    (members : Keyed Datum) : Except LoadFault (Option α) :=
  match members.find? key with
  | none => .ok none
  | some datum =>
      match read datum with
      | .ok value => .ok (some value)
      | .error fault => .error (fault.under key)

/-- The item at a place of a list, if there is one. -/
def item {α : Type} (place : Nat) (read : Datum → Except LoadFault α) (items : List Datum) :
    Except LoadFault (Option α) :=
  match items[place]? with
  | none => .ok none
  | some datum =>
      match read datum with
      | .ok value => .ok (some value)
      | .error fault => .error (fault.under (toString place))

def neededItem {α : Type} (layer : Layer) (expected : String) (place : Nat)
    (read : Datum → Except LoadFault α) (items : List Datum) : Except LoadFault α :=
  match item place read items with
  | .ok (some value) => .ok value
  | .ok none => .error ⟨.wrongLength place expected, [], some layer⟩
  | .error fault => .error fault

def toPhrase : Datum → Except LoadFault String := toText "a string"

def toPath : Datum → Except LoadFault String := toText "path string"

def toPolicy : Datum → Except LoadFault OverlapPolicy :=
  toChoice "DispatchPolicy" OverlapPolicy.choices

def toEncoding : Datum → Except LoadFault BodyEncoding :=
  toChoice "BodyEncoding" BodyEncoding.choices

/-! ## Defaults -/

/-- The defaults in a table; what it lacks is as usual. -/
def toDefaults : Datum → Except LoadFault Defaults
  | .table _ members => do
      let color ← member "color" toPhrase members
      let dispatchTimeout ← member "dispatch_timeout" toNatural members
      let insecure ← member "insecure" toBool members
      let output ← member "output" toPhrase members
      let timeout ← member "timeout" toNatural members
      return {
        output := output.getD Defaults.usual.output
        color := color.getD Defaults.usual.color
        insecure := insecure.getD Defaults.usual.insecure
        timeout := timeout.getD Defaults.usual.timeout
        dispatchTimeout := dispatchTimeout.getD Defaults.usual.dispatchTimeout }
  | .list _ items => do
      let output ← item 0 toPhrase items
      let color ← item 1 toPhrase items
      let insecure ← item 2 toBool items
      let timeout ← item 3 toNatural items
      let dispatchTimeout ← item 4 toNatural items
      return {
        output := output.getD Defaults.usual.output
        color := color.getD Defaults.usual.color
        insecure := insecure.getD Defaults.usual.insecure
        timeout := timeout.getD Defaults.usual.timeout
        dispatchTimeout := dispatchTimeout.getD Defaults.usual.dispatchTimeout }
  | other => .error (other.wrongType "struct Defaults")

/-! ## Profiles -/

def toProfile : Datum → Except LoadFault Profile
  | .table layer members => do
      let encoding ← member "body_encoding" toEncoding members
      let certificate ← member "ca_cert" toPath members
      let policy ← member "dispatch_policy" toPolicy members
      let dispatchTimeout ← member "dispatch_timeout" toNatural members
      let insecure ← member "insecure" toBool members
      let server ← member "server" toPhrase members
      let timeout ← member "timeout" toNatural members
      let token ← member "token" toPhrase members
      let tokenVariable ← member "token_env" toPhrase members
      match server with
      | none => .error ⟨.fieldMissing "server", [], some layer⟩
      | some server =>
          return ⟨server, token, tokenVariable, certificate, insecure, timeout, dispatchTimeout,
            policy, encoding⟩
  | .list layer items => do
      let needed {α : Type} (place : Nat) (read : Datum → Except LoadFault α) :=
        neededItem layer "struct Profile with 9 elements" place read items
      let server ← needed 0 toPhrase
      let token ← needed 1 toPhrase
      let tokenVariable ← needed 2 toPhrase
      let certificate ← needed 3 toPath
      let insecure ← needed 4 toBool
      let timeout ← needed 5 toNatural
      let dispatchTimeout ← needed 6 toNatural
      let policy ← needed 7 toPolicy
      let encoding ← needed 8 toEncoding
      return ⟨server, token, tokenVariable, certificate, insecure, timeout, dispatchTimeout,
        policy, encoding⟩
  | other => .error (other.wrongType "struct Profile")

def profilesOf : Keyed Datum → Except LoadFault (Keyed Profile)
  | [] => .ok []
  | (name, datum) :: others =>
      match toProfile datum with
      | .error fault => .error (fault.under name)
      | .ok profile => (profilesOf others).map ((name, profile) :: ·)

def toProfiles : Datum → Except LoadFault (Keyed Profile)
  | .table _ members => profilesOf members
  | other => .error (other.wrongType "a map")

/-! ## All settings -/

def toSettings : Datum → Except LoadFault Settings
  | .table _ members => do
      let defaultProfile ← member "default_profile" toPhrase members
      let defaults ← member "defaults" toDefaults members
      let profiles ← member "profiles" toProfiles members
      return ⟨defaultProfile, defaults.getD .usual, profiles.getD []⟩
  | other => .error (other.wrongType "struct Config")

end Datum

end DevicePanel.Settings
