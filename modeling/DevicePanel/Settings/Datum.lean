import DevicePanel.Settings.Fault
import DevicePanel.Toml.Tree

/-!
# Values of settings before they are understood

A `Datum` is a value together with the layer that it comes from.  `Datum.overlay` lays one upon
another: tables are joined key by key, and anything else hides what is below it.
-/

namespace DevicePanel.Settings

open DevicePanel.Number (Binary64)

inductive Datum where
  | bool (layer : Layer) (value : Bool)
  | signed (layer : Layer) (value : Int)
  | unsigned (layer : Layer) (value : Nat)
  | real (layer : Layer) (value : Binary64)
  | text (layer : Layer) (value : String)
  | list (layer : Layer) (items : List Datum)
  | table (layer : Layer) (members : List (String × Datum))
deriving Repr, Inhabited

namespace Datum

def layer : Datum → Layer
  | .bool layer _ | .signed layer _ | .unsigned layer _ | .real layer _ | .text layer _
  | .list layer _ | .table layer _ => layer

def found : Datum → Found
  | .bool _ value => .bool value
  | .signed _ value => .signed value
  | .unsigned _ value => .unsigned value
  | .real _ value => .real value
  | .text _ value => .text value
  | .list .. => .list
  | .table .. => .table

mutual

def overlay (lower : Datum) : (upper : Datum) → Datum
  | .table layer members =>
      match lower with
      | .table _ below => .table layer (overlayMembers below members)
      | _ => .table layer members
  | upper => upper

def overlayMembers (below : Keyed Datum) : (members : List (String × Datum)) → Keyed Datum
  | [] => below
  | (key, upper) :: others =>
      match below.find? key with
      | some lower => overlayMembers (below.put key (overlay lower upper)) others
      | none => overlayMembers (below.put key upper) others

end

mutual

def ofToml : Toml.Value → Datum
  | .text value => .text .file value
  | .whole value => .signed .file value
  | .real value => .real .file value
  | .bool value => .bool .file value
  -- A date is handed on as a table with one member.
  | .moment value => .table .file [("$__toml_private_datetime", .text .file value)]
  | .list items => .list .file (ofTomlItems items)
  | .table members => .table .file (ofTomlMembers members)

def ofTomlItems : List Toml.Value → List Datum
  | [] => []
  | item :: others => ofToml item :: ofTomlItems others

def ofTomlMembers : List (String × Toml.Value) → List (String × Datum)
  | [] => []
  | (key, value) :: others => (key, ofToml value) :: ofTomlMembers others

end

end Datum

end DevicePanel.Settings
