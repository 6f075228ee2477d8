import DevicePanel.Json.Tree
import DevicePanel.Proofs.Json.Pieces
import DevicePanel.Proofs.Json.Spacing

/-!
# The tree of a value's text

The text of a value is cut into the tokens of the value, and from these a tree is built that says
the value, whatever the places of its nodes are.
-/

namespace DevicePanel.Json

/-! ## The tokens of a value -/

/-- Every number of the value is whole and kept digit by digit. -/
inductive Value.Exact : Value → Prop where
  | null : Exact .null
  | bool (value : Bool) : Exact (.bool value)
  | whole {n : Int} : IsKept n → Exact (.whole n)
  | text (value : String) : Exact (.text value)
  | list {items : List Value} : (∀ item ∈ items, Exact item) → Exact (.list items)
  | object {members : List (String × Value)} :
      (∀ member ∈ members, Exact member.2) → Exact (.object members)

mutual

/-- The kinds of the tokens that a value is written with. -/
def Value.kinds : Value → List TokenKind
  | .null => [.null]
  | .bool value => [.bool value]
  | .number value => [.number (.ok value)]
  | .text value => [.text (.ok value)]
  | .list [] => [.mark .openList, .mark .closeList]
  | .list (item :: items) => .mark .openList :: (item.kinds ++ itemsKinds items)
  | .object [] => [.mark .openObject, .mark .closeObject]
  | .object ((key, value) :: members) =>
      .mark .openObject :: .text (.ok key) :: .mark .colon :: (value.kinds ++ membersKinds members)

def itemsKinds : List Value → List TokenKind
  | [] => [.mark .closeList]
  | item :: items => .mark .comma :: (item.kinds ++ itemsKinds items)

def membersKinds : List (String × Value) → List TokenKind
  | [] => [.mark .closeObject]
  | (key, value) :: members =>
      .mark .comma :: .text (.ok key) :: .mark .colon :: (value.kinds ++ membersKinds members)

end

theorem Value.kinds_list_ne_nil (items : List Value) : (Value.list items).kinds ≠ [] := by
  cases items <;> simp [Value.kinds]

theorem delimited_cons {c : Char} (digit : c.isDigit = false)
    (other : c ≠ '.' ∧ c ≠ 'e' ∧ c ≠ 'E') (rest : List Char) : Delimited (c :: rest) := by
  rintro _ ⟨⟩
  exact ⟨digit, other⟩

theorem delimited_nil : Delimited [] := by simp [Delimited]

theorem delimited_blanks {blanks rest : List Char} (blank : ∀ c ∈ blanks, isBlank c = true)
    (delimited : Delimited rest) : Delimited (blanks ++ rest) := by
  cases blanks with
  | nil => exact delimited
  | cons c blanks =>
      have first := blank c List.mem_cons_self
      simp only [isBlank, decide_eq_true_eq] at first
      obtain rfl | rfl | rfl | rfl := first <;> exact delimited_cons rfl (by decide) _

theorem delimited_spacedItems (spacing : Spacing) (level : Nat) (items : List Value)
    (rest : List Char) : Delimited (spacedItems spacing level items ++ rest) := by
  cases items with
  | nil =>
      rw [spacedItems, List.append_assoc]
      exact delimited_blanks (spacing.blank_line level) (delimited_cons rfl (by decide) rest)
  | cons item items => exact delimited_cons rfl (by decide) _

theorem delimited_spacedMembers (spacing : Spacing) (level : Nat) (members : List (String × Value))
    (rest : List Char) : Delimited (spacedMembers spacing level members ++ rest) := by
  cases members with
  | nil =>
      rw [spacedMembers, List.append_assoc]
      exact delimited_blanks (spacing.blank_line level) (delimited_cons rfl (by decide) rest)
  | cons member members => exact delimited_cons rfl (by decide) _

/-- Tokens are not found in nothing. -/
theorem CutInto.ne_nil {piece : List Char} {kinds : List TokenKind} (cut : CutInto piece kinds)
    (some : kinds ≠ []) : piece ≠ [] := by
  rintro rfl
  obtain ⟨stop, read, rfl, found⟩ := cut 0 [] delimited_nil
  rw [List.append_nil, tokens] at found
  obtain ⟨rfl, -⟩ := List.append_eq_nil_iff.mp (congrArg Prod.fst found).symm
  exact some rfl

/-- Blanks before a piece do not matter. -/
theorem CutInto.after_blanks {blanks piece : List Char} {kinds : List TokenKind}
    (cut : CutInto piece kinds) (blank : ∀ c ∈ blanks, isBlank c = true) :
    CutInto (blanks ++ piece) kinds := by
  intro index rest delimited
  induction blanks generalizing index with
  | nil => exact cut index rest delimited
  | cons c blanks ih =>
      obtain ⟨first, others⟩ := List.forall_mem_cons.mp blank
      rw [List.cons_append, List.cons_append, tokens, if_pos first]
      exact ih others (index + 1)

theorem CutInto.mark_cons {c : Char} {mark : Mark} {piece : List Char} {kinds : List TokenKind}
    (cut : CutInto piece kinds) (visible : isBlank c = false) (isMark : markOf c = some mark) :
    CutInto (c :: piece) (.mark mark :: kinds) := by
  intro index rest delimited
  obtain ⟨stop, read, told, found⟩ := cut (index + 1) rest delimited
  refine ⟨stop, ⟨index, index + 1, .mark mark⟩ :: read, by rw [List.map_cons, told], ?_⟩
  rw [List.cons_append, tokens]
  simp only [visible, Bool.false_eq_true, if_false, scanToken, isMark, found, List.cons_append]

theorem CutInto.key {piece : List Char} {kinds : List TokenKind} (key : String)
    (cut : CutInto piece kinds) :
    CutInto (quote key.toList ++ ':' :: piece) (.text (.ok key) :: .mark .colon :: kinds) :=
  (cutInto_quote key).append (cut.mark_cons rfl rfl)
    fun _ _ => delimited_cons rfl (by decide) _

section

variable (spacing : Spacing)

mutual

/-- A value is cut into its tokens, whatever blanks it has where a line may break and after a
colon. -/
theorem cutInto_spaced (level : Nat) {value : Value} (exact : value.Exact) :
    CutInto (spaced spacing level value) value.kinds := by
  cases exact with
  | null => exact cutInto_null
  | bool value => cases value with
    | true => exact cutInto_true
    | false => exact cutInto_false
  | whole kept => exact cutInto_wholeText kept
  | text value => exact cutInto_quote value
  | @list items exactItems =>
      cases items with
      | nil => exact (cutInto_mark rfl rfl).mark_cons rfl rfl
      | cons item items =>
          have first := cutInto_spaced (level + 1) (exactItems item (by simp))
          have others := cutInto_spacedItems level fun item member =>
            exactItems item (List.mem_cons_of_mem _ member)
          have inside := first.append others fun rest _ =>
            delimited_spacedItems spacing level items rest
          exact (inside.after_blanks (spacing.blank_line (level + 1))).mark_cons rfl rfl
  | @object members exactMembers =>
      cases members with
      | nil => exact (cutInto_mark rfl rfl).mark_cons rfl rfl
      | cons member members =>
          -- The gap stands between the colon and the value, the line before the key.
          have first := cutInto_spaced (level + 1) (exactMembers member (by simp))
          have others := cutInto_spacedMembers level fun member later =>
            exactMembers member (List.mem_cons_of_mem _ later)
          have values := first.append others fun rest _ =>
            delimited_spacedMembers spacing level members rest
          have inside := (values.after_blanks spacing.blank_gap).key member.1
          exact (inside.after_blanks (spacing.blank_line (level + 1))).mark_cons rfl rfl

theorem cutInto_spacedItems (level : Nat) {items : List Value}
    (exact : ∀ item ∈ items, item.Exact) :
    CutInto (spacedItems spacing level items) (itemsKinds items) := by
  cases items with
  | nil => exact (cutInto_mark rfl rfl).after_blanks (spacing.blank_line level)
  | cons item items =>
      have first := cutInto_spaced (level + 1) (exact item (by simp))
      have others := cutInto_spacedItems level fun item member =>
        exact item (List.mem_cons_of_mem _ member)
      have inside := first.append others fun rest _ =>
        delimited_spacedItems spacing level items rest
      exact (inside.after_blanks (spacing.blank_line (level + 1))).mark_cons rfl rfl

theorem cutInto_spacedMembers (level : Nat) {members : List (String × Value)}
    (exact : ∀ member ∈ members, member.2.Exact) :
    CutInto (spacedMembers spacing level members) (membersKinds members) := by
  cases members with
  | nil => exact (cutInto_mark rfl rfl).after_blanks (spacing.blank_line level)
  | cons member members =>
      have first := cutInto_spaced (level + 1) (exact member (by simp))
      have others := cutInto_spacedMembers level fun member later =>
        exact member (List.mem_cons_of_mem _ later)
      have values := first.append others fun rest _ =>
        delimited_spacedMembers spacing level members rest
      have inside := (values.after_blanks spacing.blank_gap).key member.1
      exact (inside.after_blanks (spacing.blank_line (level + 1))).mark_cons rfl rfl

end

end

theorem cutInto_compact {value : Value} (exact : value.Exact) :
    CutInto (compact value) value.kinds := by
  rw [← spaced_none 0]
  exact cutInto_spaced .none 0 exact

theorem cutInto_indented {value : Value} (exact : value.Exact) (level : Nat) :
    CutInto (indented level value) value.kinds := by
  rw [← spaced_lines]
  exact cutInto_spaced .lines level exact

/-! ## The tree of a value -/

mutual

/-- The node says the value: it was read from the tokens of the value. -/
inductive Node.Says : Node → Value → Prop where
  | null (start stop : Nat) : Node.Says (.null start stop) .null
  | bool (start stop : Nat) (value : Bool) : Node.Says (.bool start stop value) (.bool value)
  | number (start stop : Nat) (value : Numeral) :
      Node.Says (.number start stop (.ok value)) (.number value)
  | text (start stop : Nat) (value : String) :
      Node.Says (.text start stop (.ok value)) (.text value)
  | list (start stop : Nat) {items : Items} {values : List Value} :
      Items.Say items values → Node.Says (.list start stop items) (.list values)
  | object (start stop : Nat) {members : Members} {pairs : List (String × Value)} :
      Members.Say members pairs → Node.Says (.object start stop members) (.object pairs)

inductive Items.Say : Items → List Value → Prop where
  | closed : Items.Say .closed []
  | item {node : Node} {others : Items} {value : Value} {values : List Value} :
      Node.Says node value → Items.Say others values →
      Items.Say (.item node others) (value :: values)

inductive Members.Say : Members → List (String × Value) → Prop where
  | closed : Members.Say .closed []
  | member {key : KeyRead} {node : Node} {others : Members} {name : String} {value : Value}
      {pairs : List (String × Value)} (next : Nat) :
      key.name = .ok name → Node.Says node value → Members.Say others pairs →
      Members.Say (.member key node next others) ((name, value) :: pairs)

end

theorem build_of_inl {goal later : Goal} {frames outer : List Frame} {token : Token}
    (advanced : advance goal frames token = .inl (later, outer)) (size : Nat)
    (others : List Token) :
    build size goal frames (token :: others) = build size later outer others := by
  rw [build, advanced]

/-- A token that is a value by itself ends the value. -/
theorem build_of_scalar {kind : TokenKind} {value : Value}
    (scalar : ∀ start stop, ∃ node,
      (Token.mk start stop kind).scalar? = some node ∧ node.Says value)
    {read : List Token} (told : read.map Token.kind = [kind]) (size : Nat) (mayClose : Bool)
    (frames : List Frame) (more : List Token) :
    ∃ node, node.Says value ∧ build size (.value mayClose) frames (read ++ more) =
      build size (.after node) frames more := by
  obtain ⟨⟨start, stop, _⟩, rfl, rfl⟩ := List.map_eq_singleton_iff.mp told
  obtain ⟨node, found, said⟩ := scalar start stop
  exact ⟨node, said, build_of_inl (by simp [advance, found]) size more⟩

/-- A text and a colon are the key of a member. -/
theorem build_of_key {key : String} {kinds : List TokenKind} {read : List Token}
    (told : read.map Token.kind = .text (.ok key) :: .mark .colon :: kinds) :
    ∃ keyRead others, keyRead.name = .ok key ∧ others.map Token.kind = kinds ∧
      ∀ size mayClose start before outer more,
        build size (.key mayClose) (.object start before :: outer) (read ++ more) =
          build size (.value false) (.member start before keyRead :: outer) (others ++ more) := by
  obtain ⟨⟨_, stop, _⟩, rest, rfl, rfl, toldRest⟩ := List.map_eq_cons_iff.mp told
  obtain ⟨⟨next, _, _⟩, others, rfl, rfl, toldOthers⟩ := List.map_eq_cons_iff.mp toldRest
  refine ⟨⟨.ok key, stop, next⟩, others, rfl, toldOthers, ?_⟩
  intro size mayClose start before outer more
  rw [List.cons_append, build_of_inl rfl, List.cons_append, build_of_inl rfl]
  rfl

mutual

/-- From the tokens of a value a node is built that says the value. -/
theorem build_value (value : Value) {read : List Token}
    (told : read.map Token.kind = value.kinds) (size : Nat) (mayClose : Bool)
    (frames : List Frame) (more : List Token) :
    ∃ node, node.Says value ∧ build size (.value mayClose) frames (read ++ more) =
      build size (.after node) frames more := by
  match value with
  | .null => exact build_of_scalar (fun _ _ => ⟨_, rfl, .null _ _⟩) told _ _ _ _
  | .bool value => exact build_of_scalar (fun _ _ => ⟨_, rfl, .bool _ _ _⟩) told _ _ _ _
  | .number value => exact build_of_scalar (fun _ _ => ⟨_, rfl, .number _ _ _⟩) told _ _ _ _
  | .text value => exact build_of_scalar (fun _ _ => ⟨_, rfl, .text _ _ _⟩) told _ _ _ _
  | .list [] =>
      obtain ⟨⟨start, _, _⟩, _, rfl, rfl, toldOthers⟩ := List.map_eq_cons_iff.mp told
      obtain ⟨⟨_, stop, _⟩, rfl, rfl⟩ := List.map_eq_singleton_iff.mp toldOthers
      exact ⟨_, .list start stop .closed, rfl⟩
  | .list (item :: items) =>
      obtain ⟨⟨start, _, _⟩, others, rfl, rfl, toldOthers⟩ := List.map_eq_cons_iff.mp told
      obtain ⟨first, later, rfl, toldFirst, toldLater⟩ := List.map_eq_append_iff.mp toldOthers
      obtain ⟨node, said, built⟩ :=
        build_value item toldFirst size true (.list start [] :: frames) (later ++ more)
      obtain ⟨stop, rest, say, closed⟩ := build_items items toldLater size start node [] frames more
      refine ⟨_, .list start stop (.item said say), ?_⟩
      rw [List.cons_append, build_of_inl rfl, List.append_assoc, built, closed]
      rfl
  | .object [] =>
      obtain ⟨⟨start, _, _⟩, _, rfl, rfl, toldOthers⟩ := List.map_eq_cons_iff.mp told
      obtain ⟨⟨_, stop, _⟩, rfl, rfl⟩ := List.map_eq_singleton_iff.mp toldOthers
      exact ⟨_, .object start stop .closed, rfl⟩
  | .object ((key, value) :: members) =>
      obtain ⟨⟨start, _, _⟩, others, rfl, rfl, toldOthers⟩ := List.map_eq_cons_iff.mp told
      obtain ⟨keyRead, after, named, toldAfter, keyed⟩ := build_of_key toldOthers
      obtain ⟨first, later, rfl, toldFirst, toldLater⟩ := List.map_eq_append_iff.mp toldAfter
      obtain ⟨node, said, built⟩ := build_value value toldFirst size false
        (.member start [] keyRead :: frames) (later ++ more)
      obtain ⟨stop, next, rest, say, closed⟩ :=
        build_members members toldLater size start node [] keyRead frames more
      refine ⟨_, .object start stop (.member next named said say), ?_⟩
      rw [List.cons_append, build_of_inl rfl, keyed, List.append_assoc, built, closed]
      rfl

/-- From the tokens after an item the list is built to its end. -/
theorem build_items (items : List Value) {read : List Token}
    (told : read.map Token.kind = itemsKinds items) (size start : Nat) (node : Node)
    (before : List Node) (outer : List Frame) (more : List Token) :
    ∃ stop rest, Items.Say rest items ∧
      build size (.after node) (.list start before :: outer) (read ++ more) =
        build size (.after (.list start stop (itemsOf (node :: before) rest))) outer more := by
  match items with
  | [] =>
      obtain ⟨⟨_, stop, _⟩, rfl, rfl⟩ := List.map_eq_singleton_iff.mp told
      exact ⟨stop, .closed, .closed, rfl⟩
  | item :: items =>
      obtain ⟨⟨_, _, _⟩, others, rfl, rfl, toldOthers⟩ := List.map_eq_cons_iff.mp told
      obtain ⟨first, later, rfl, toldFirst, toldLater⟩ := List.map_eq_append_iff.mp toldOthers
      obtain ⟨next, said, built⟩ := build_value item toldFirst size false
        (.list start (node :: before) :: outer) (later ++ more)
      obtain ⟨stop, rest, say, closed⟩ :=
        build_items items toldLater size start next (node :: before) outer more
      refine ⟨stop, _, .item said say, ?_⟩
      rw [List.cons_append, build_of_inl rfl, List.append_assoc, built, closed]
      rfl

/-- From the tokens after a member the object is built to its end. -/
theorem build_members (members : List (String × Value)) {read : List Token}
    (told : read.map Token.kind = membersKinds members) (size start : Nat) (node : Node)
    (before : List Member) (key : KeyRead) (outer : List Frame) (more : List Token) :
    ∃ stop next rest, Members.Say rest members ∧
      build size (.after node) (.member start before key :: outer) (read ++ more) =
        build size (.after (.object start stop (membersOf (⟨key, node, next⟩ :: before) rest)))
          outer more := by
  match members with
  | [] =>
      obtain ⟨⟨_, stop, _⟩, rfl, rfl⟩ := List.map_eq_singleton_iff.mp told
      exact ⟨stop, stop, .closed, .closed, rfl⟩
  | (name, value) :: members =>
      obtain ⟨⟨next, past, _⟩, others, rfl, rfl, toldOthers⟩ := List.map_eq_cons_iff.mp told
      obtain ⟨keyRead, after, named, toldAfter, keyed⟩ := build_of_key toldOthers
      obtain ⟨first, later, rfl, toldFirst, toldLater⟩ := List.map_eq_append_iff.mp toldAfter
      obtain ⟨following, said, built⟩ := build_value value toldFirst size false
        (.member start (⟨key, node, next⟩ :: before) keyRead :: outer) (later ++ more)
      obtain ⟨stop, last, rest, say, closed⟩ := build_members members toldLater size start following
        (⟨key, node, next⟩ :: before) keyRead outer more
      refine ⟨stop, next, _, .member last named said say, ?_⟩
      have advanced : advance (.after node) (.member start before key :: outer)
          ⟨next, past, .mark .comma⟩ =
          .inl (.key false, .object start (⟨key, node, next⟩ :: before) :: outer) := rfl
      rw [List.cons_append, build_of_inl advanced, keyed, List.append_assoc, built, closed]
      rfl

end

theorem tokens_of_blank {blanks : List Char} (blank : ∀ c ∈ blanks, isBlank c = true)
    (index : Nat) : (tokens index blanks).1 = [] := by
  induction blanks generalizing index with
  | nil => rw [tokens]
  | cons c blanks ih =>
      obtain ⟨first, others⟩ := List.forall_mem_cons.mp blank
      rw [tokens, if_pos first]
      exact ih others (index + 1)

/-- A text that is cut into the tokens of a value is read as a tree that says the value, with
nothing but blanks after it. -/
theorem ofChars_of_cutInto {value : Value} {piece blanks : List Char}
    (cut : CutInto piece value.kinds) (blank : ∀ c ∈ blanks, isBlank c = true) :
    ∃ root, Document.ofChars (piece ++ blanks) = ⟨root, none⟩ ∧ root.Says value := by
  have delimited : Delimited blanks := by
    simpa using delimited_blanks blank delimited_nil
  obtain ⟨stop, read, told, found⟩ := cut 0 blanks delimited
  obtain ⟨root, said, built⟩ := build_value value told (tokens stop blanks).2 false [] []
  refine ⟨root, ?_, said⟩
  rw [tokens_of_blank blank stop] at found
  rw [Document.ofChars, found]
  exact built

end DevicePanel.Json
