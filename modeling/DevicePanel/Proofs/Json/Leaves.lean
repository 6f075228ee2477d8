import DevicePanel.Proofs.Json.Records

/-!
# The leaves of a tree are tokens

Nothing in a tree is made up: every number, text, truth value and `null` in it is a token of its
text, with the place and the value of the token.  What holds of all tokens of a text so holds of
all leaves of its tree.
-/

namespace DevicePanel.Json

mutual

/-- Every value without brackets was read from a token of which this holds. -/
def Node.Leaves (holds : Token → Prop) : Node → Prop
  | .null start stop => holds ⟨start, stop, .null⟩
  | .bool start stop value => holds ⟨start, stop, .bool value⟩
  | .number start stop value => holds ⟨start, stop, .number value⟩
  | .text start stop value => holds ⟨start, stop, .text value⟩
  | .list _ _ items => items.Leaves holds
  | .object _ _ members => members.Leaves holds
  | .broken _ _ => True

def Items.Leaves (holds : Token → Prop) : Items → Prop
  | .closed => True
  | .broken _ => True
  | .item value others => value.Leaves holds ∧ others.Leaves holds

def Members.Leaves (holds : Token → Prop) : Members → Prop
  | .closed => True
  | .broken _ _ => True
  | .member _ value _ others => value.Leaves holds ∧ others.Leaves holds

end

def Frame.Leaves (holds : Token → Prop) : Frame → Prop
  | .list _ items => ∀ item ∈ items, item.Leaves holds
  | .object _ members | .member _ members _ => ∀ member ∈ members, member.value.Leaves holds

def FramesLeaves (holds : Token → Prop) : List Frame → Prop
  | [] => True
  | frame :: frames => frame.Leaves holds ∧ FramesLeaves holds frames

def Goal.Leaves (holds : Token → Prop) : Goal → Prop
  | .after node => node.Leaves holds
  | _ => True

section

variable {holds : Token → Prop}

theorem leaves_itemsOf {items : List Node} {ending : Items}
    (read : ∀ item ∈ items, item.Leaves holds) (last : ending.Leaves holds) :
    (itemsOf items ending).Leaves holds := by
  induction items generalizing ending with
  | nil => exact last
  | cons item items ih =>
      obtain ⟨first, others⟩ := List.forall_mem_cons.mp read
      exact ih others ⟨first, last⟩

theorem leaves_membersOf {members : List Member} {ending : Members}
    (read : ∀ member ∈ members, member.value.Leaves holds) (last : ending.Leaves holds) :
    (membersOf members ending).Leaves holds := by
  induction members generalizing ending with
  | nil => exact last
  | cons member members ih =>
      obtain ⟨first, others⟩ := List.forall_mem_cons.mp read
      exact ih others ⟨first, last⟩

/-! ## Where the text breaks off -/

theorem leaves_unwind {stop : Nat} {place : Break} {frames : List Frame} {node : Node}
    (outer : FramesLeaves holds frames) (inside : node.Leaves holds) :
    (unwind stop place frames node).Leaves holds := by
  fun_induction unwind stop place frames node with
  | case1 => exact inside
  | case2 start items frames node ih =>
      exact ih outer.2 (leaves_itemsOf outer.1 ⟨inside, trivial⟩)
  | case3 start members frames node ih => exact ih outer.2 inside
  | case4 start members key frames node ih =>
      exact ih outer.2 (leaves_membersOf outer.1 ⟨inside, trivial⟩)

theorem leaves_breakValue {start : Nat} {place : Break} {frames : List Frame}
    (outer : FramesLeaves holds frames) : (breakValue start place frames).Leaves holds :=
  leaves_unwind outer trivial

theorem leaves_breakList {place : Break} {start : Nat} {items : List Node} {frames : List Frame}
    (read : ∀ item ∈ items, item.Leaves holds) (outer : FramesLeaves holds frames) :
    (breakList place start items frames).Leaves holds :=
  leaves_unwind outer (leaves_itemsOf read trivial)

theorem leaves_breakObject {place : Break} {instead : Option Token} {start : Nat}
    {members : List Member} {frames : List Frame}
    (read : ∀ member ∈ members, member.value.Leaves holds) (outer : FramesLeaves holds frames) :
    (breakObject place instead start members frames).Leaves holds :=
  leaves_unwind outer (leaves_membersOf read trivial)

/-! ## One token, and all of them -/

theorem leaves_of_scalar? {token : Token} {node : Node} (scalar : token.scalar? = some node)
    (known : holds token) : node.Leaves holds := by
  obtain ⟨start, stop, kind⟩ := token
  cases kind <;> cases scalar <;> exact known

/-- The leaves of what one token leads to. -/
def StepLeaves (holds : Token → Prop) : (Goal × List Frame) ⊕ Document → Prop
  | .inl (goal, frames) => goal.Leaves holds ∧ FramesLeaves holds frames
  | .inr document => document.root.Leaves holds

theorem leaves_advance {goal : Goal} {frames : List Frame} {token : Token}
    (sought : goal.Leaves holds) (outer : FramesLeaves holds frames) (known : holds token) :
    StepLeaves holds (advance goal frames token) := by
  fun_cases advance goal frames token with
  -- A value is needed.
  | case1 mayClose node tail scalar => exact ⟨leaves_of_scalar? scalar known, outer⟩
  | case2 | case3 => exact ⟨trivial, List.forall_mem_nil _, outer⟩
  | case4 => exact ⟨leaves_itemsOf outer.1 trivial, outer.2⟩
  | case5 => exact leaves_breakList outer.1 outer.2
  | case6 | case7 | case8 => exact leaves_breakValue outer
  -- A key is needed.
  | case9 => exact ⟨trivial, outer⟩
  | case10 => exact ⟨leaves_membersOf outer.1 trivial, outer.2⟩
  | case11 | case12 | case13 => exact leaves_breakObject outer.1 outer.2
  | case14 => exact trivial
  -- A colon is needed.
  | case15 => exact ⟨trivial, outer⟩
  | case16 => exact leaves_breakValue outer
  | case17 => exact trivial
  -- A value was read, and belongs to the innermost bracket.
  | case18 => exact sought
  | case19 => exact ⟨trivial, List.forall_mem_cons.mpr ⟨sought, outer.1⟩, outer.2⟩
  | case20 =>
      exact ⟨leaves_itemsOf (List.forall_mem_cons.mpr ⟨sought, outer.1⟩) trivial, outer.2⟩
  | case21 => exact leaves_breakList (List.forall_mem_cons.mpr ⟨sought, outer.1⟩) outer.2
  | case22 => exact ⟨trivial, List.forall_mem_cons.mpr ⟨sought, outer.1⟩, outer.2⟩
  | case23 =>
      exact ⟨leaves_membersOf (List.forall_mem_cons.mpr ⟨sought, outer.1⟩) trivial, outer.2⟩
  | case24 => exact leaves_breakObject (List.forall_mem_cons.mpr ⟨sought, outer.1⟩) outer.2
  | case25 => exact leaves_breakObject outer.1 outer.2

theorem leaves_finish {goal : Goal} {frames : List Frame} (sought : goal.Leaves holds)
    (outer : FramesLeaves holds frames) (size : Nat) :
    (finish goal frames size).root.Leaves holds := by
  fun_cases finish goal frames size with
  | case1 => exact sought
  | case2 => exact leaves_breakList (List.forall_mem_cons.mpr ⟨sought, outer.1⟩) outer.2
  | case3 => exact leaves_breakObject (List.forall_mem_cons.mpr ⟨sought, outer.1⟩) outer.2
  | case4 | case5 => exact leaves_breakList outer.1 outer.2
  | case6 | case7 => exact leaves_breakObject outer.1 outer.2
  | case8 | case9 => exact leaves_breakValue outer

theorem leaves_build {size : Nat} {goal : Goal} {frames : List Frame} {read : List Token}
    (sought : goal.Leaves holds) (outer : FramesLeaves holds frames)
    (known : ∀ token ∈ read, holds token) : (build size goal frames read).root.Leaves holds := by
  induction read generalizing goal frames with
  | nil => exact leaves_finish sought outer size
  | cons token others ih =>
      obtain ⟨first, later⟩ := List.forall_mem_cons.mp known
      have step := leaves_advance sought outer first
      rw [build]
      split
      · next next frames advanced =>
          rw [advanced] at step
          exact ih step.1 step.2 later
      · next document advanced =>
          rw [advanced] at step
          exact step

/-- What holds of every token of a text holds of every leaf of its tree. -/
theorem leaves_ofText {document : String}
    (known : ∀ token ∈ (tokens 0 document.toList).1, holds token) :
    (Document.ofText document).root.Leaves holds :=
  leaves_build trivial trivial known

/-! ## Parts of a node -/

theorem leaves_of_nodes? {items : Items} {nodes : List Node} (closed : items.nodes? = some nodes)
    (read : items.Leaves holds) : ∀ node ∈ nodes, node.Leaves holds := by
  induction nodes generalizing items with
  | nil => exact List.forall_mem_nil _
  | cons node nodes ih =>
      cases items with
      | item value others =>
          obtain ⟨rest, later, same⟩ := Option.map_eq_some_iff.mp closed
          obtain ⟨rfl, rfl⟩ := List.cons.inj same
          exact List.forall_mem_cons.mpr ⟨read.1, ih later read.2⟩
      | _ => simp [Items.nodes?] at closed

theorem leaves_of_pairs? {members : Members} {pairs : List (String × Node)}
    (closed : members.pairs? = some pairs) (read : members.Leaves holds) :
    ∀ pair ∈ pairs, pair.2.Leaves holds := by
  induction pairs generalizing members with
  | nil => exact List.forall_mem_nil _
  | cons pair pairs ih =>
      cases members with
      | member key value next others =>
          obtain ⟨name, -, found⟩ := Option.bind_eq_some_iff.mp closed
          obtain ⟨rest, later, same⟩ := Option.map_eq_some_iff.mp found
          obtain ⟨rfl, rfl⟩ := List.cons.inj same
          exact List.forall_mem_cons.mpr ⟨read.1, ih later read.2⟩
      | _ => simp [Members.pairs?] at closed

theorem mem_of_lookup {name : String} {node : Node} {pairs : List (String × Node)}
    (found : pairs.lookup name = some node) : (name, node) ∈ pairs := by
  obtain ⟨before, after, rfl, -⟩ := List.lookup_eq_some_iff.mp found
  exact List.mem_append_right _ List.mem_cons_self

/-- What stands for a field of a record is a part of the record. -/
theorem leaves_of_parts {names : List String} {node : Node} {parts : List (Option Node)}
    (stands : node.Parts names parts) (read : node.Leaves holds) {part : Node}
    (member : some part ∈ parts) : part.Leaves holds := by
  cases stands with
  | members closed fits =>
      obtain ⟨name, -, found⟩ := List.mem_map.mp member
      exact leaves_of_pairs? closed read _ (mem_of_lookup found)
  | items closed short =>
      obtain ⟨name, -, found⟩ := List.mem_map.mp member
      exact leaves_of_nodes? closed read _ (List.of_mem_zip (mem_of_lookup found)).2

end

end DevicePanel.Json
