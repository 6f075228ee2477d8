import DevicePanel.Json.Token

/-!
# The tree of a JSON text

A text is read into a tree as far as it makes sense.  Where it stops, the tree holds the
`Break`, so that whoever walks over the tree meets a value of the wrong shape before a fault
further on in the text, just as if both were read at once.

The tree is built in one pass over the tokens with the open brackets on a stack.
-/

namespace DevicePanel.Json

/-- A key that was read: its text, the number of bytes up to its end, and the number of bytes
read by one who tries to close the object just after it. -/
structure KeyRead where
  name : Except Fault String
  stop : Nat
  next : Nat

mutual

inductive Node where
  | null (start stop : Nat)
  | bool (start stop : Nat) (value : Bool)
  | number (start stop : Nat) (value : Except Fault Numeral)
  | text (start stop : Nat) (value : Except Fault String)
  | list (start stop : Nat) (items : Items)
  | object (start stop : Nat) (members : Members)
  /-- There is no value here. -/
  | broken (start : Nat) (place : Break)

/-- The items of a list, up to its closing bracket or to where it breaks off. -/
inductive Items where
  | closed
  | broken (place : Break)
  | item (value : Node) (others : Items)

/-- The members of an object.  With each key and value comes the number of bytes read by one
who tries to close the object just after it: up to the next character that is no blank, and
over it if it is the closing brace. -/
inductive Members where
  | closed
  /-- The object breaks off; `instead` is what stands where a key is needed. -/
  | broken (place : Break) (instead : Option Token)
  | member (key : KeyRead) (value : Node) (valueNext : Nat) (others : Members)

end

/-- The text as a tree. -/
structure Document where
  root : Node
  /-- The place of a character after the value that is no blank. -/
  trailing : Option Nat

namespace Node

/-- The number of bytes before a value. -/
def start : Node → Nat
  | .null start _ | .bool start _ _ | .number start _ _ | .text start _ _
  | .list start _ _ | .object start _ _ | .broken start _ => start

end Node

/-- A member of which the value is known. -/
structure Member where
  key : KeyRead
  value : Node
  valueNext : Nat

/-- An open bracket with what was read after it, last first. -/
inductive Frame where
  | list (start : Nat) (items : List Node)
  | object (start : Nat) (members : List Member)
  | member (start : Nat) (members : List Member) (key : KeyRead)

/-- What is needed next. -/
inductive Goal where
  /-- A value; the list may also close. -/
  | value (mayClose : Bool)
  /-- A key; the object may also close. -/
  | key (mayClose : Bool)
  /-- The colon after a key. -/
  | colon (name : Except Fault String) (stop : Nat)
  | after (value : Node)

def itemsOf (items : List Node) (ending : Items) : Items :=
  items.foldl (fun others item => .item item others) ending

def membersOf (members : List Member) (ending : Members) : Members :=
  members.foldl
    (fun others m => .member m.key m.value m.valueNext others) ending

def unwind (stop : Nat) (place : Break) : List Frame → Node → Node
  | [], node => node
  | .list start items :: frames, node =>
      unwind stop place frames (.list start stop (itemsOf items (.item node (.broken place))))
  | .object _ _ :: frames, node => unwind stop place frames node
  | .member start members key :: frames, node =>
      unwind stop place frames
        (.object start stop (membersOf members
          (.member key node stop (.broken place none))))

/-- The tree when no value stands where one is needed. -/
def breakValue (start : Nat) (place : Break) (frames : List Frame) : Node :=
  unwind place.index place frames (.broken start place)

/-- The tree when a list breaks off between its items. -/
def breakList (place : Break) (start : Nat) (items : List Node) (frames : List Frame) : Node :=
  unwind place.index place frames (.list start place.index (itemsOf items (.broken place)))

/-- The tree when an object breaks off before a key. -/
def breakObject (place : Break) (instead : Option Token) (start : Nat) (members : List Member)
    (frames : List Frame) : Node :=
  unwind place.index place frames
    (.object start place.index (membersOf members (.broken place instead)))

def Token.scalar? (token : Token) : Option Node :=
  match token.kind with
  | .null => some (.null token.start token.stop)
  | .bool value => some (.bool token.start token.stop value)
  | .number value => some (.number token.start token.stop value)
  | .text value => some (.text token.start token.stop value)
  | _ => none

/-- The number of bytes read by one who tries to close an object at a token. -/
def Token.closing (token : Token) : Nat :=
  match token.kind with
  | .mark .closeObject => token.stop
  | _ => token.start

def unexpected (token : Token) (reading skipping : Cause) : Break :=
  .ofCauses token.start (token.start + 1) reading skipping

/-- Go on with one token: a new goal and stack, or the whole tree when the text ends here. -/
def advance (goal : Goal) (frames : List Frame) (token : Token) :
    (Goal × List Frame) ⊕ Document :=
  let failed (node : Node) : (Goal × List Frame) ⊕ Document := .inr ⟨node, none⟩
  match goal with
  | .value mayClose =>
      match token.scalar?, token.kind with
      | some node, _ => .inl (.after node, frames)
      | none, .mark .openList => .inl (.value true, .list token.start [] :: frames)
      | none, .mark .openObject => .inl (.key true, .object token.start [] :: frames)
      | none, .mark .closeList =>
          match frames with
          | .list start items :: outer =>
              if mayClose then .inl (.after (.list start token.stop (itemsOf items .closed)), outer)
              else
                let told := some (token.start + 1)
                failed (breakList ⟨token.start, ⟨.trailingComma, told⟩, ⟨.valueExpected, told⟩,
                  ⟨.trailingComma, told⟩⟩ start items outer)
          | _ =>
              failed (breakValue token.start (unexpected token .valueExpected .valueExpected) frames)
      | none, .damaged _ place => failed (breakValue token.start place frames)
      | none, _ =>
          failed (breakValue token.start (unexpected token .valueExpected .valueExpected) frames)
  | .key mayClose =>
      match frames with
      | .object start members :: outer =>
          match token.kind with
          | .text name => .inl (.colon name token.stop, frames)
          | .mark .closeObject =>
              if mayClose then
                .inl (.after (.object start token.stop (membersOf members .closed)), outer)
              else
                failed (breakObject (unexpected token .trailingComma .keyNotText) none start members
                  outer)
          | .damaged true place => failed (breakObject place none start members outer)
          | _ =>
              failed (breakObject (unexpected token .keyNotText .keyNotText) (some token) start
                members outer)
      | _ => failed (.broken token.start (unexpected token .keyNotText .keyNotText))
  | .colon name stop =>
      match frames with
      | .object start members :: outer =>
          let opened := .member start members ⟨name, stop, token.closing⟩ :: outer
          match token.kind with
          | .mark .colon => .inl (.value false, opened)
          | _ =>
              failed (breakValue token.start
                (unexpected token .colonExpected .colonExpected) opened)
      | _ => failed (.broken token.start (unexpected token .colonExpected .colonExpected))
  | .after node =>
      match frames with
      | [] => .inr ⟨node, some token.start⟩
      | .list start items :: outer =>
          match token.kind with
          | .mark .comma => .inl (.value false, .list start (node :: items) :: outer)
          | .mark .closeList =>
              .inl (.after (.list start token.stop (itemsOf (node :: items) .closed)), outer)
          | _ =>
              failed (breakList (unexpected token .listCommaExpected .listCommaExpected) start
                (node :: items) outer)
      | .member start members key :: outer =>
          let members := ⟨key, node, token.closing⟩ :: members
          match token.kind with
          | .mark .comma => .inl (.key false, .object start members :: outer)
          | .mark .closeObject =>
              .inl (.after (.object start token.stop (membersOf members .closed)), outer)
          | _ =>
              failed (breakObject (unexpected token .objectCommaExpected .objectCommaExpected) none
                start members outer)
      | .object start members :: outer =>
          failed (breakObject (unexpected token .keyNotText .keyNotText) none start members outer)

/-- The tree when the text ends. -/
def finish (goal : Goal) (frames : List Frame) (size : Nat) : Document :=
  let failed (node : Node) : Document := ⟨node, none⟩
  match goal, frames with
  | .after node, [] => ⟨node, none⟩
  | .after node, .list start items :: outer =>
      failed (breakList (.uniform size size .listUnfinished) start (node :: items) outer)
  | .after node, .member start members key :: outer =>
      failed (breakObject (.uniform size size .objectUnfinished) none start
        (⟨key, node, size⟩ :: members) outer)
  | .value true, .list start items :: outer =>
      failed (breakList (.uniform size size .listUnfinished) start items outer)
  | .value false, .list start items :: outer =>
      failed (breakList (.ofCauses size size .valueUnfinished .valueUnfinished) start items outer)
  | .key true, .object start members :: outer =>
      failed (breakObject (.uniform size size .objectUnfinished) none start members outer)
  | .key false, .object start members :: outer =>
      failed (breakObject (.ofCauses size size .valueUnfinished .objectUnfinished) none start
        members outer)
  | .colon name stop, .object start members :: outer =>
      failed (breakValue size (.uniform size size .objectUnfinished)
        (.member start members ⟨name, stop, size⟩ :: outer))
  | _, frames =>
      failed (breakValue size (.uniform size size .valueUnfinished) frames)

def build (size : Nat) (goal : Goal) (frames : List Frame) : List Token → Document
  | [] => finish goal frames size
  | token :: others =>
      match advance goal frames token with
      | .inl (goal, frames) => build size goal frames others
      | .inr document => document

namespace Document

def ofChars (text : List Char) : Document :=
  let (all, size) := tokens 0 text
  build size (.value false) [] all

def ofText (text : String) : Document := ofChars text.toList

end Document

end DevicePanel.Json
