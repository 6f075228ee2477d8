import DevicePanel.Json.Tree
import DevicePanel.Text.Hidden

/-!
# From the tree of a JSON text to values of a type

A `Decoder` walks over a node from left to right and answers a value, or the first fault that
it meets.  The number it takes is how many more brackets may be opened.
-/

namespace DevicePanel.Json

/-- How many brackets may stand inside one another. -/
def deepest : Nat := 127

/-- A way of reading a value of a type from a node, below a number of open brackets. -/
abbrev Decoder (α : Type) := Nat → Node → Except Fault α

/-! ## Passing over a value -/

mutual

/-- Pass over a value, whatever it is. -/
def skip : Node → Except Fault Unit
  | .list _ _ items => skipItems items
  | .object _ _ members => skipMembers members
  | .broken _ place => .error place.skipping
  | _ => .ok ()

def skipItems : Items → Except Fault Unit
  | .closed => .ok ()
  | .broken place => .error place.skipping
  | .item value others =>
      match skip value with
      | .error fault => .error fault
      | .ok () => skipItems others

def skipMembers : Members → Except Fault Unit
  | .closed => .ok ()
  | .broken place _ => .error place.skipping
  | .member _ value _ others =>
      match skip value with
      | .error fault => .error fault
      | .ok () => skipMembers others

end

/-! ## Any value -/

def tooDeep (start : Nat) : Fault := ⟨.nestedTooDeep, some (start + 1)⟩

mutual

def anyValue (depth : Nat) : Node → Except Fault Value
  | .null _ _ => .ok .null
  | .bool _ _ value => .ok (.bool value)
  | .number _ _ value => value.map .number
  | .text _ _ value => value.map .text
  | .list start _ items =>
      match depth with
      | 0 => .error (tooDeep start)
      | depth + 1 => (anyItems depth items).map .list
  | .object start _ members =>
      match depth with
      | 0 => .error (tooDeep start)
      | depth + 1 => (anyMembers depth members).map .object
  | .broken _ place => .error place.reading

def anyItems (depth : Nat) : Items → Except Fault (List Value)
  | .closed => .ok []
  | .broken place => .error place.reading
  | .item value others =>
      match anyValue depth value with
      | .error fault => .error fault
      | .ok first => (anyItems depth others).map (first :: ·)

def anyMembers (depth : Nat) : Members → Except Fault (List (String × Value))
  | .closed => .ok []
  | .broken place _ => .error place.reading
  | .member key value _ others =>
      match key.name with
      | .error fault => .error fault
      | .ok name =>
          match anyValue depth value with
          | .error fault => .error fault
          | .ok first => (anyMembers depth others).map ((name, first) :: ·)

end

/-! ## A value of a certain type -/

def wrongType (expected : String) : Node → Fault
  | .null _ stop => ⟨.wrongType Found.null.describe expected, some stop⟩
  | .bool _ stop value => ⟨.wrongType (Found.bool value).describe expected, some stop⟩
  | .number _ stop (.ok (.whole value)) => ⟨.wrongType (Found.whole value).describe expected, some stop⟩
  | .number _ stop (.ok (.real value)) => ⟨.wrongType (Found.real value).describe expected, some stop⟩
  | .number _ _ (.error fault) => fault
  | .text _ stop (.ok value) =>
      ⟨.wrongType (Found.text (Text.shown value)).describe expected, some stop⟩
  | .text _ _ (.error fault) => fault
  | .list start _ _ => ⟨.wrongType Found.list.describe expected, some start⟩
  | .object start _ _ => ⟨.wrongType Found.object.describe expected, some start⟩
  | .broken _ place => place.reading

/-- Read a text, called `expected` in a refusal. -/
def text (expected : String) : Decoder String
  | _, .text _ _ value => value
  | _, node => .error (wrongType expected node)

def string : Decoder String := text "a string"

def bool : Decoder Bool
  | _, .bool _ _ value => .ok value
  | _, node => .error (wrongType "a boolean" node)

/-- Read a natural number of 64 bits. -/
def natural : Decoder Nat
  | _, .number _ stop (.ok (.whole value)) =>
      if value < 0 then .error ⟨.wrongValue (Found.whole value).describe "u64", some stop⟩
      else .ok value.toNat
  | _, node => .error (wrongType "u64" node)

/-- `null` is no value. -/
def optional {α : Type} (decode : Decoder α) : Decoder (Option α)
  | _, .null _ _ => .ok none
  | depth, node => (decode depth node).map some

/-- The number of bytes read by one who tries to close a list before the items that are left;
`stop` is the end of the whole list. -/
def Items.closing (stop : Nat) : Items → Nat
  | .closed => stop
  | .broken place => place.index
  | .item value _ => value.start

def listItems {α : Type} (decode : Decoder α) (depth stop : Nat) :
    Items → Except Fault (List α)
  | .closed => .ok []
  | .broken place => .error place.reading
  | .item value others =>
      match decode depth value with
      | .error fault => .error (fault.placeAt (others.closing stop))
      | .ok first => (listItems decode depth stop others).map (first :: ·)

def list {α : Type} (decode : Decoder α) : Decoder (List α)
  | 0, .list start _ _ => .error (tooDeep start)
  | depth + 1, .list _ stop items => listItems decode depth stop items
  | _, node => .error (wrongType "a sequence" node)

/-- Read a choice among names; a name may also stand as the only key of an object with the
value `null`. -/
def choice {α : Type} (choices : List (String × α)) : Decoder α := fun depth node =>
  let find (name : String) (stop : Nat) : Except Fault α :=
    match choices.find? fun c => c.1 == name with
    | some (_, value) => .ok value
    | none => .error ⟨.unknownChoice name (choices.map Prod.fst), some stop⟩
  match node with
  | .text _ stop (.ok name) => find name stop
  | .text _ _ (.error fault) => .error fault
  | .object start stop members =>
      if depth = 0 then .error (tooDeep start)
      else
        match members with
        | .closed => .error ⟨.valueExpected, some stop⟩
        | .broken _ (some token) =>
            match token.scalar? with
            | some node => .error (wrongType "variant identifier" node)
            | none =>
                match token.kind with
                | .mark .openList =>
                    .error ⟨.wrongType Found.list.describe "variant identifier", some token.start⟩
                | .mark .openObject =>
                    .error ⟨.wrongType Found.object.describe "variant identifier", some token.start⟩
                | .damaged _ place => .error place.reading
                | _ => .error ⟨.valueExpected, some (token.start + 1)⟩
        | .broken place none =>
            if place.reading.cause = .objectUnfinished then
              .error { place.reading with cause := .valueUnfinished }
            else .error place.reading
        | .member key value valueNext others =>
            match key.name with
            | .error fault => .error fault
            | .ok name =>
                match find name key.stop with
                | .error fault => .error fault
                | .ok found =>
                    match value with
                    | .null _ _ =>
                        match others with
                        | .closed => .ok found
                        | .broken place _ =>
                            if place.reading.cause = .objectUnfinished then .error place.reading
                            else .error ⟨.valueExpected, some valueNext⟩
                        | .member .. => .error ⟨.valueExpected, some valueNext⟩
                    | other => .error (wrongType "unit" other)
  | .broken _ place => .error place.reading
  | other => .error ⟨.valueExpected, some (other.start + 1)⟩

/-! ## Records -/

/-- A field of a record that is read into a draft `σ`.  `absent` tells what becomes of the
draft when an object lacks the field, and `isOptional` that a list may end before it. -/
structure Field (σ : Type) where
  name : String
  read : Decoder (σ → σ)
  absent : Except Cause (σ → σ)
  isOptional : Bool

namespace Field

def required {σ α : Type} (name : String) (decode : Decoder α) (set : α → σ → σ) : Field σ where
  name := name
  read := fun depth node => (decode depth node).map set
  absent := .error (.fieldMissing name)
  isOptional := false

/-- A field that keeps what the draft begins with when it is not there. -/
def defaulted {σ α : Type} (name : String) (decode : Decoder α) (set : α → σ → σ) : Field σ where
  name := name
  read := fun depth node => (decode depth node).map set
  absent := .ok id
  isOptional := true

/-- A field without a value when an object lacks it; a list must still have it. -/
def nullable {σ α : Type} (name : String) (decode : Decoder α) (set : Option α → σ → σ) :
    Field σ where
  name := name
  read := fun depth node => (optional decode depth node).map set
  absent := .ok id
  isOptional := false

end Field

/-- Read the members of an object into a draft; `seen` are the fields read so far. -/
def recordMembers {σ : Type} (fields : List (Field σ)) (depth : Nat) :
    (draft : σ) → (seen : List String) → Members → Except Fault (σ × List String)
  | draft, seen, .closed => .ok (draft, seen)
  | _, _, .broken place _ => .error place.reading
  | draft, seen, .member key value valueNext others =>
      match key.name with
      | .error fault => .error fault
      | .ok name =>
          match fields.find? fun field => field.name == name with
          | none =>
              match skip value with
              | .error fault => .error fault
              | .ok () => recordMembers fields depth draft seen others
          | some field =>
              if seen.contains name then .error ⟨.fieldRepeated name, some key.next⟩
              else
                match field.read depth value with
                | .error fault => .error (fault.placeAt valueNext)
                | .ok set => recordMembers fields depth (set draft) (name :: seen) others

def fillAbsent {σ : Type} (stop : Nat) (seen : List String) :
    List (Field σ) → σ → Except Fault σ
  | [], draft => .ok draft
  | field :: fields, draft =>
      if seen.contains field.name then fillAbsent stop seen fields draft
      else
        match field.absent with
        | .error cause => .error ⟨cause, some stop⟩
        | .ok set => fillAbsent stop seen fields (set draft)

/-- Read the items of a list as the fields of a record, in their order; `count` were read. -/
def recordItems {σ : Type} (expected : String) (depth stop : Nat) (count : Nat) :
    List (Field σ) → σ → Items → Except Fault σ
  | [], draft, .closed => .ok draft
  | [], _, .broken place => .error place.closing
  | [], _, .item value _ => .error ⟨.trailingCharacters, some (value.start + 1)⟩
  | _ :: _, _, .broken place => .error place.reading
  | field :: fields, draft, .closed =>
      if field.isOptional then recordItems expected depth stop (count + 1) fields draft .closed
      else .error ⟨.wrongLength count expected, some stop⟩
  | field :: fields, draft, .item value others =>
      match field.read depth value with
      | .error fault => .error (fault.placeAt (others.closing stop))
      | .ok set => recordItems expected depth stop (count + 1) fields (set draft) others

def recordPhrase (name : String) (count : Nat) : String :=
  "struct " ++ name ++ " with " ++ toString count ++
    (if count = 1 then " element" else " elements")

/-- Read a record from an object, or from a list with its fields in order. -/
def record {σ : Type} (name : String) (fields : List (Field σ)) (start : σ) : Decoder σ
  | 0, .list place _ _ => .error (tooDeep place)
  | 0, .object place _ _ => .error (tooDeep place)
  | depth + 1, .list _ stop items =>
      recordItems (recordPhrase name fields.length) depth stop 0 fields start items
  | depth + 1, .object _ stop members =>
      match recordMembers fields depth start [] members with
      | .error fault => .error fault
      | .ok (draft, seen) => fillAbsent stop seen fields draft
  | _, node => .error (wrongType ("struct " ++ name) node)

/-! ## Whole texts -/

def read {α : Type} (decode : Decoder α) (document : String) : Except Fault α :=
  let tree := Document.ofText document
  match decode deepest tree.root, tree.trailing with
  | .error fault, _ => .error fault
  | .ok _, some place => .error ⟨.trailingCharacters, some (place + 1)⟩
  | .ok value, none => .ok value

end DevicePanel.Json
