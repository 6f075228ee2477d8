import DevicePanel.Keyed
import DevicePanel.Number.Binary64

/-!
# TOML values, and the tables of a document while it is read

Tables keep their members in the order of the keys.  They come about in three ways, which decides
what may be added to them later: by a header, as a part of the path of a header or by a key with
points.
-/

namespace DevicePanel.Toml

open DevicePanel.Number (Binary64)

inductive Value where
  | text (value : String)
  | whole (value : Int)
  | real (value : Binary64)
  | bool (value : Bool)
  /-- A date, a time of day or both, as it was written. -/
  | moment (value : String)
  | list (items : List Value)
  | table (members : List (String × Value))
deriving Repr, Inhabited

abbrev Table := Keyed Value

/-- How a table came about. -/
inductive Making where
  | header
  /-- On the way to the table of a header. -/
  | passage
  | points
deriving Repr, DecidableEq

/-- What stands under a key while the document is read. -/
inductive Growth where
  | value (value : Value)
  | table (making : Making) (members : List (String × Growth))
  /-- A list of tables; the last of them, which can still grow, stands apart from the earlier
  ones, which are held in reverse order. -/
  | tables (current : List (String × Growth)) (earlier : List (List (String × Growth)))
deriving Inhabited

namespace Growth

abbrev Members := Keyed Growth

/-- Put a value at the end of a path of keys with points.  A table with a header cannot be
extended so, and the last table of the path must have been made so. -/
def putPair (value : Value) : (path : List String) → Members → Option Members
  | [], _ => none
  | [key], members =>
      match members.find? key with
      | some _ => none
      | none => some (members.put key (.value value))
  | key :: next :: path, members =>
      match members.find? key with
      | none => (putPair value (next :: path) []).map fun inner =>
          members.put key (.table .points inner)
      | some (.table making inner) =>
          if making = .header ∨ (path.isEmpty ∧ making ≠ .points) then none
          else (putPair value (next :: path) inner).map fun inner =>
            members.put key (.table making inner)
      | some (.tables current earlier) =>
          if path.isEmpty then none
          else (putPair value (next :: path) current).map fun current =>
            members.put key (.tables current earlier)
      | some (.value _) => none

def within (change : Members → Option Members) : (path : List String) → Members → Option Members
  | [], members => change members
  | key :: path, members =>
      match members.find? key with
      | none => (within change path []).map fun inner => members.put key (.table .passage inner)
      | some (.table making inner) =>
          (within change path inner).map fun inner => members.put key (.table making inner)
      | some (.tables current earlier) =>
          (within change path current).map fun current =>
            members.put key (.tables current earlier)
      | some (.value _) => none

def openTable (key : String) (members : Members) : Option Members :=
  match members.find? key with
  | none => some (members.put key (.table .header []))
  | some (.table .passage inner) => some (members.put key (.table .header inner))
  | _ => none

/-- Begin one more table of a list of tables. -/
def openItem (key : String) (members : Members) : Option Members :=
  match members.find? key with
  | none => some (members.put key (.tables [] []))
  | some (.tables current earlier) => some (members.put key (.tables [] (current :: earlier)))
  | _ => none

mutual

def toValue : Growth → Value
  | .value written => written
  | .table _ members => .table (toMembers members)
  | .tables current earlier => .list (toTables earlier [.table (toMembers current)])

def toMembers : List (String × Growth) → List (String × Value)
  | [] => []
  | (key, growth) :: others => (key, toValue growth) :: toMembers others

/-- The tables of a list, of which the earlier ones come in reverse order. -/
def toTables : List (List (String × Growth)) → List Value → List Value
  | [], later => later
  | members :: earlier, later => toTables earlier (.table (toMembers members) :: later)

end

end Growth

end DevicePanel.Toml
