import DevicePanel.Json.Decode
import Mathlib.Data.List.Forall2

/-!
# Which values are accepted

A decoder walks over a tree and stops at the first fault.  Here it is told which nodes it accepts
and with which value, without the faults it may meet on its way.
-/

namespace DevicePanel.Json

theorem map_eq_ok_iff {ε α β : Type} {result : Except ε α} {f : α → β} {value : β} :
    result.map f = .ok value ↔ ∃ a, result = .ok a ∧ f a = value := by
  cases result <;> simp [Except.map]

theorem toOption_eq_some_iff {ε α : Type} {result : Except ε α} {value : α} :
    result.toOption = some value ↔ result = .ok value := by
  cases result <;> simp [Except.toOption]

/-! ## Single values -/

/-- The text that a node is, if it is one. -/
def Node.text? : Node → Option String
  | .text _ _ (.ok value) => some value
  | _ => none

theorem toOption_string (depth : Nat) (node : Node) :
    (string depth node).toOption = node.text? := by
  cases node with
  | text start stop read => cases read <;> rfl
  | _ => rfl

/-- The value of a node that is no list and no object, if it has one. -/
def Node.scalar? : Node → Option Value
  | .null _ _ => some .null
  | .bool _ _ value => some (.bool value)
  | .number _ _ (.ok value) => some (.number value)
  | .text _ _ (.ok value) => some (.text value)
  | _ => none

/-- Whoever refuses lists and objects needs to look at scalars only. -/
theorem bind_toOption_anyValue {α : Type} {f : Value → Option α}
    (lists : ∀ values, f (.list values) = none) (objects : ∀ members, f (.object members) = none)
    (depth : Nat) (node : Node) :
    (anyValue depth node).toOption.bind f = node.scalar?.bind f := by
  cases node with
  | null | bool | broken => rfl
  | number start stop read => cases read <;> rfl
  | text start stop read => cases read <;> rfl
  | list start stop items =>
      refine Eq.trans (Option.bind_eq_none_iff.mpr ?_) rfl
      intro value read
      cases depth with
      | zero => cases read
      | succ depth =>
          obtain ⟨values, -, rfl⟩ := map_eq_ok_iff.mp (toOption_eq_some_iff.mp read)
          exact lists values
  | object start stop members =>
      refine Eq.trans (Option.bind_eq_none_iff.mpr ?_) rfl
      intro value read
      cases depth with
      | zero => cases read
      | succ depth =>
          obtain ⟨pairs, -, rfl⟩ := map_eq_ok_iff.mp (toOption_eq_some_iff.mp read)
          exact objects pairs

/-- What is read from a node that may be `null` or missing. -/
def nullable? {α : Type} (read : Node → Option α) : Option Node → Option (Option α)
  | none => some none
  | some (.null _ _) => some none
  | some node => (read node).map some

theorem toOption_optional {α : Type} {decode : Decoder α} {depth : Nat} {read : Node → Option α}
    (reads : ∀ node, (decode depth node).toOption = read node) (node : Node) :
    (optional decode depth node).toOption = nullable? read (some node) := by
  have plain (other : Node) : ((decode depth other).map some).toOption = (read other).map some := by
    rw [← reads other]
    cases decode depth other <;> rfl
  cases node with
  | null start stop => rfl
  | _ => exact plain _

theorem nullable?_eq_some_some_iff {α : Type} {read : Node → Option α}
    (refuses : ∀ start stop, read (.null start stop) = none) {part : Option Node} {value : α} :
    nullable? read part = some (some value) ↔ part.bind read = some value := by
  cases part with
  | none => simp [nullable?]
  | some node => cases node <;> simp [nullable?, refuses]

/-! ## Lists -/

/-- The items of a list that is closed. -/
def Items.nodes? : Items → Option (List Node)
  | .closed => some []
  | .broken _ => none
  | .item value others => others.nodes?.map (value :: ·)

theorem listItems_eq_ok_iff {α : Type} {decode : Decoder α} {depth stop : Nat} {items : Items}
    {values : List α} : listItems decode depth stop items = .ok values ↔
      ∃ nodes, items.nodes? = some nodes ∧
        List.Forall₂ (fun node value => decode depth node = .ok value) nodes values := by
  fun_induction listItems decode depth stop items generalizing values with
  | case1 => simp [Items.nodes?, eq_comm]
  | case2 place => simp [Items.nodes?]
  | case3 value others fault refused =>
      simp [Items.nodes?, refused, List.forall₂_cons_left_iff]
  | case4 value others first read ih =>
      simp only [map_eq_ok_iff, ih, Items.nodes?, Option.map_eq_some_iff]
      constructor
      · rintro ⟨rest, ⟨nodes, closed, all⟩, rfl⟩
        exact ⟨_, ⟨nodes, closed, rfl⟩, .cons read all⟩
      · rintro ⟨_, ⟨nodes, closed, rfl⟩, all⟩
        obtain ⟨other, rest, same, others, rfl⟩ := List.forall₂_cons_left_iff.mp all
        obtain rfl : first = other := Except.ok.inj (read.symm.trans same)
        exact ⟨rest, ⟨nodes, closed, others⟩, rfl⟩

/-- A list is read from a closed list of which every item is read. -/
theorem list_eq_ok_iff {α : Type} {decode : Decoder α} {depth : Nat} {node : Node}
    {values : List α} : list decode (depth + 1) node = .ok values ↔
      ∃ start stop items nodes, node = .list start stop items ∧ items.nodes? = some nodes ∧
        List.Forall₂ (fun node value => decode depth node = .ok value) nodes values := by
  cases node <;> simp [list, listItems_eq_ok_iff]

/-- The texts of a closed list. -/
def Node.texts? : Node → Option (List String)
  | .list _ _ items => items.nodes?.bind fun nodes => nodes.mapM Node.text?
  | _ => none

theorem mapM_eq_some_iff {α β : Type} {f : α → Option β} {items : List α} {values : List β} :
    items.mapM f = some values ↔
      List.Forall₂ (fun item value => f item = some value) items values := by
  induction items generalizing values with
  | nil => simp [eq_comm]
  | cons item items ih =>
      simp only [List.mapM_cons, Option.bind_eq_bind, Option.bind_eq_some_iff, ih,
        List.forall₂_cons_left_iff, Option.pure_def, Option.some.injEq]
      constructor
      · rintro ⟨value, first, others, rest, rfl⟩
        exact ⟨value, others, first, rest, rfl⟩
      · rintro ⟨value, others, first, rest, rfl⟩
        exact ⟨value, first, others, rest, rfl⟩

theorem toOption_texts (depth : Nat) (node : Node) :
    (list string (depth + 1) node).toOption = node.texts? := by
  apply Option.ext
  intro texts
  have text_iff (node : Node) (text : String) :
      string depth node = .ok text ↔ node.text? = some text := by
    rw [← toOption_eq_some_iff, toOption_string]
  rw [toOption_eq_some_iff, list_eq_ok_iff]
  cases node with
  | list start stop items =>
      simp [Node.texts?, text_iff, Option.bind_eq_some_iff, mapM_eq_some_iff]
  | _ => simp [Node.texts?]

/-! ## Whole texts -/

/-- A text is read if it is one value with nothing after it, and the value is read. -/
theorem read_eq_ok_iff {α : Type} {decode : Decoder α} {document : String} {value : α} :
    read decode document = .ok value ↔
      ∃ root, Document.ofText document = ⟨root, none⟩ ∧ decode deepest root = .ok value := by
  rw [read]
  cases tree : Document.ofText document with
  | mk root trailing =>
      cases decoded : decode deepest root with
      | error fault => simp [decoded]
      | ok found => cases trailing <;> simp [decoded]

end DevicePanel.Json
