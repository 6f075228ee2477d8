import DevicePanel.Proofs.Hub.Documents
import DevicePanel.Proofs.Hub.Rereading
import DevicePanel.Proofs.Json.Integers
import DevicePanel.Proofs.Json.Leaves

/-!
# Integers for identifiers and states

The hub may tell an identifier or a state by an integer.  An integer of 64 bits with a sign is
carried as its own digits.  Any other integer is refused as an identifier, and as a state it is
rounded to a floating-point number.
-/

namespace DevicePanel.Hub

open DevicePanel.Json
open DevicePanel.Number (Layout)

/-! ## Records and their texts -/

/-- The text of the identifier that a node is. -/
def EntryId.textOf? (node : Node) : Option String := (ofNode? node).map toText

/-- The text of the state that a node is. -/
def Reading.textOf? (node : Node) : Option String := (ofNode? node).map toText

theorem EntryId.bind_textOf? (part : Option Node) :
    part.bind textOf? = (part.bind ofNode?).map toText := by
  cases part <;> rfl

theorem Reading.bind_textOf? (part : Option Node) :
    part.bind textOf? = (part.bind ofNode?).map toText := by
  cases part <;> rfl

theorem Entry.decoder_eq_ok_iff_of_parts {node : Node} {parts : List (Option Node)}
    (stands : node.Parts names parts) (depth : Nat) (entry : Entry) :
    decoder (depth + 2) node = .ok entry ↔ ofParts? parts = some entry := by
  rw [decoder_eq_ok_iff]
  constructor
  · rintro ⟨others, again, told⟩
    rwa [stands.unique again]
  · exact fun told => ⟨parts, stands, told⟩

/-- An entry is accepted if each of its fields is, and its device has the texts of the fields. -/
theorem Entry.exists_device_iff {node : Node} {id name typeName state commands : Option Node}
    (stands : node.Parts names [id, name, typeName, state, commands]) (depth : Nat)
    (device : Device) :
    (∃ entry, decoder (depth + 2) node = .ok entry ∧ entry.toDevice = device) ↔
      id.bind EntryId.textOf? = some device.id ∧ name.bind Node.text? = some device.name ∧
        typeName.bind Node.text? = some device.typeName ∧
        state.bind Reading.textOf? = some device.state ∧
        commands? commands = some device.commands := by
  simp only [decoder_eq_ok_iff_of_parts stands, EntryId.bind_textOf?, Reading.bind_textOf?,
    Option.map_eq_some_iff]
  constructor
  · rintro ⟨entry, told, rfl⟩
    simp only [ofParts?, Option.bind_eq_bind, Option.bind_eq_some_iff] at told
    obtain ⟨a, idRead, b, nameRead, c, typeRead, d, stateRead, e, commandsRead, same⟩ := told
    obtain rfl := Option.some.inj same
    exact ⟨⟨a, Option.bind_eq_some_iff.mpr idRead, rfl⟩, Option.bind_eq_some_iff.mpr nameRead,
      Option.bind_eq_some_iff.mpr typeRead, ⟨d, Option.bind_eq_some_iff.mpr stateRead, rfl⟩,
      commandsRead⟩
  · rintro ⟨⟨a, idRead, idText⟩, nameRead, typeRead, ⟨d, stateRead, stateText⟩, commandsRead⟩
    refine ⟨⟨a, device.name, device.typeName, d, device.commands⟩, ?_, ?_⟩
    · simp [ofParts?, idRead, nameRead, typeRead, stateRead, commandsRead]
    · simp [toDevice, idText, stateText]

/-- An answer is accepted if both of its fields are, and the new state has their texts. -/
theorem Answer.exists_update_iff {document : String} {root : Node} {id state : Option Node}
    (whole : Document.ofText document = ⟨root, none⟩)
    (stands : root.Parts ["id", "state"] [id, state]) (update : StateUpdate) :
    (∃ raw answer, Json.read RawAnswer.decoder document = .ok raw ∧
      Client.complete raw = .ok answer ∧ answer.toUpdate = update) ↔
      id.bind EntryId.textOf? = some update.id ∧
        state.bind Reading.textOf? = some update.state := by
  simp only [EntryId.bind_textOf?, Reading.bind_textOf?, Option.map_eq_some_iff]
  constructor
  · rintro ⟨raw, answer, read, complete, rfl⟩
    obtain ⟨other, parts, again, others, told⟩ := exists_complete_iff.mp ⟨raw, read, complete⟩
    obtain ⟨rfl, -⟩ := Document.mk.inj (whole.symm.trans again)
    obtain rfl := stands.unique others
    simp only [ofParts?, Option.bind_eq_bind, Option.bind_eq_some_iff] at told
    obtain ⟨a, idRead, d, stateRead, same⟩ := told
    obtain rfl := Option.some.inj same
    exact ⟨⟨a, Option.bind_eq_some_iff.mpr idRead, rfl⟩,
      ⟨d, Option.bind_eq_some_iff.mpr stateRead, rfl⟩⟩
  · rintro ⟨⟨a, idRead, idText⟩, ⟨d, stateRead, stateText⟩⟩
    have told : ToldIn document ⟨a, d⟩ :=
      ⟨root, _, whole, stands, by simp [ofParts?, idRead, stateRead]⟩
    obtain ⟨raw, read, complete⟩ := exists_complete_iff.mpr told
    exact ⟨raw, _, read, complete, by simp [toUpdate, idText, stateText]⟩

/-! ## A number where a literal stands -/

/-- The literal is an integer of 64 bits with a sign, and not minus zero. -/
def FitsSigned (literal : IntegerLiteral) : Prop :=
  isSigned64 literal.value = true ∧ literal ≠ .minusZero

section

variable {literal : IntegerLiteral} {document : String} {place stop : Nat}
  {given : Except Json.Fault Numeral} (written : literal.StandsAt place document)
  (stands : Token.StandsIn 0 document.toList ⟨place, stop, .number given⟩)

include written stands

theorem eq_whole_of_fitsSigned (fits : FitsSigned literal) : given = .ok (.whole literal.value) :=
  (IntegerLiteral.value_of_standsAt written stands _).mpr
    ⟨⟨isKept_of_isSigned64 fits.1, fits.2⟩, rfl⟩

theorem isSigned64_eq_false (beyond : ¬ FitsSigned literal) {n : Int}
    (whole : given = .ok (.whole n)) : isSigned64 n = false := by
  obtain ⟨kept, rfl⟩ := (IntegerLiteral.value_of_standsAt written stands n).mp whole
  rw [← Bool.not_eq_true]
  exact fun within => beyond ⟨within, kept.2⟩

/-- As an identifier an integer that fits has the digits that it is written with. -/
theorem EntryId.textOf?_of_fitsSigned (fits : FitsSigned literal) :
    textOf? (.number place stop given) = some literal.toText := by
  rw [eq_whole_of_fitsSigned written stands fits, IntegerLiteral.toText,
    IntegerLiteral.toChars_eq_wholeText fits.2]
  simp [textOf?, ofNode?, Node.scalar?, ofJson?, fits.1, toText]

/-- As a state an integer that fits has the digits that it is written with. -/
theorem Reading.textOf?_of_fitsSigned (fits : FitsSigned literal) :
    textOf? (.number place stop given) = some literal.toText := by
  rw [eq_whole_of_fitsSigned written stands fits, IntegerLiteral.toText,
    IntegerLiteral.toChars_eq_wholeText fits.2]
  simp [textOf?, ofNode?, Node.scalar?, ofJson?, fits.1, toText]

/-- An integer that does not fit is no identifier. -/
theorem EntryId.ofNode?_of_not_fitsSigned (beyond : ¬ FitsSigned literal) :
    ofNode? (.number place stop given) = none := by
  cases given with
  | error fault => rfl
  | ok numeral =>
      cases numeral with
      | real x => rfl
      | whole n =>
          have outside := isSigned64_eq_false written stands beyond rfl
          simp [ofNode?, Node.scalar?, ofJson?, outside]

/-- An integer that does not fit is a floating-point number, if it is a state. -/
theorem Reading.exists_eq_real_of_not_fitsSigned (beyond : ¬ FitsSigned literal) {state : Reading}
    (found : ofNode? (.number place stop given) = some state) : ∃ x, state = .real x := by
  cases given with
  | error fault => cases found
  | ok numeral =>
      cases numeral with
      | real x => exact ⟨x, (Option.some.inj found).symm⟩
      | whole n =>
          have outside := isSigned64_eq_false written stands beyond rfl
          simp only [ofNode?, Node.scalar?, ofJson?, outside, Option.bind_some,
            Bool.false_eq_true, if_false, Option.some.injEq] at found
          exact ⟨_, found.symm⟩

end

/-! ## Listings and answers -/

/-- The node is an item of the list that the document is. -/
def IsItem (document : String) (node : Node) : Prop :=
  ∃ start stop items nodes trailing,
    Document.ofText document = ⟨.list start stop items, trailing⟩ ∧
      items.nodes? = some nodes ∧ node ∈ nodes

/-- What stands for a field is the number at this byte. -/
def IsNumberAt (place : Nat) (part : Option Node) : Prop :=
  ∃ stop given, part = some (.number place stop given)

/-- Wherever the number at this byte stands for an identifier or a state, the field is accepted as
these digits, and whether the entry or the answer is accepted lies with the other fields. -/
structure KeepsDigits (document : String) (place : Nat) (digits : String) : Prop where
  entry {node : Node} {id name typeName state commands : Option Node} :
    IsItem document node → node.Parts Entry.names [id, name, typeName, state, commands] →
      (IsNumberAt place id → id.bind EntryId.textOf? = some digits) ∧
      (IsNumberAt place state → state.bind Reading.textOf? = some digits) ∧
      ∀ depth device,
        (∃ entry, Entry.decoder (depth + 2) node = .ok entry ∧ entry.toDevice = device) ↔
          id.bind EntryId.textOf? = some device.id ∧ name.bind Node.text? = some device.name ∧
            typeName.bind Node.text? = some device.typeName ∧
            state.bind Reading.textOf? = some device.state ∧
            commands? commands = some device.commands
  answer {root : Node} {id state : Option Node} :
    Document.ofText document = ⟨root, none⟩ → root.Parts ["id", "state"] [id, state] →
      (IsNumberAt place id → id.bind EntryId.textOf? = some digits) ∧
      (IsNumberAt place state → state.bind Reading.textOf? = some digits) ∧
      ∀ update,
        (∃ raw answer, Json.read RawAnswer.decoder document = .ok raw ∧
          Client.complete raw = .ok answer ∧ answer.toUpdate = update) ↔
          id.bind EntryId.textOf? = some update.id ∧
            state.bind Reading.textOf? = some update.state

/-- The number at this byte is refused as an identifier, and as a state it is rounded. -/
structure LosesDigits (document : String) (place : Nat) : Prop where
  entry {node : Node} {id name typeName state commands : Option Node} :
    IsItem document node → node.Parts Entry.names [id, name, typeName, state, commands] →
      ∀ depth entry, Entry.decoder (depth + 2) node = .ok entry →
        ¬ IsNumberAt place id ∧ (IsNumberAt place state → ∃ x, entry.state = .real x)
  answer {root : Node} {id state : Option Node} :
    Document.ofText document = ⟨root, none⟩ → root.Parts ["id", "state"] [id, state] →
      ∀ raw, Json.read RawAnswer.decoder document = .ok raw →
        ¬ IsNumberAt place id ∧ (IsNumberAt place state → ∃ x, raw.state = some (.real x))

section

variable {document : String} {place : Nat}

theorem leaves_document (document : String) :
    (Document.ofText document).root.Leaves (Token.StandsIn 0 document.toList) :=
  leaves_ofText fun _ member => standsIn_of_mem_tokens member

theorem leaves_of_isItem {node : Node} (item : IsItem document node) :
    node.Leaves (Token.StandsIn 0 document.toList) := by
  obtain ⟨start, stop, items, nodes, trailing, whole, closed, member⟩ := item
  have leaves := leaves_document document
  rw [whole] at leaves
  exact leaves_of_nodes? closed leaves node member

/-- A number that stands for a field stands in the document. -/
theorem IsNumberAt.exists_token {names : List String} {node : Node} {parts : List (Option Node)}
    {part : Option Node} (number : IsNumberAt place part) (stands : node.Parts names parts)
    (leaves : node.Leaves (Token.StandsIn 0 document.toList)) (member : part ∈ parts) :
    ∃ stop given, part = some (.number place stop given) ∧
      Token.StandsIn 0 document.toList ⟨place, stop, .number given⟩ := by
  obtain ⟨stop, given, rfl⟩ := number
  exact ⟨stop, given, rfl, leaves_of_parts stands leaves member⟩

variable {literal : IntegerLiteral} (written : literal.StandsAt place document)

include written

theorem keepsDigits (fits : FitsSigned literal) : KeepsDigits document place literal.toText where
  entry item stands := by
    refine ⟨fun number => ?_, fun number => ?_, Entry.exists_device_iff stands⟩
    · obtain ⟨stop, given, rfl, token⟩ :=
        number.exists_token stands (leaves_of_isItem item) (by simp)
      exact EntryId.textOf?_of_fitsSigned written token fits
    · obtain ⟨stop, given, rfl, token⟩ :=
        number.exists_token stands (leaves_of_isItem item) (by simp)
      exact Reading.textOf?_of_fitsSigned written token fits
  answer whole stands := by
    have leaves := leaves_document document
    rw [whole] at leaves
    refine ⟨fun number => ?_, fun number => ?_, Answer.exists_update_iff whole stands⟩
    · obtain ⟨stop, given, rfl, token⟩ := number.exists_token stands leaves (by simp)
      exact EntryId.textOf?_of_fitsSigned written token fits
    · obtain ⟨stop, given, rfl, token⟩ := number.exists_token stands leaves (by simp)
      exact Reading.textOf?_of_fitsSigned written token fits

theorem losesDigits (beyond : ¬ FitsSigned literal) : LosesDigits document place where
  entry item stands depth entry accepted := by
    have told := (Entry.decoder_eq_ok_iff_of_parts stands depth entry).mp accepted
    simp only [Entry.ofParts?, Option.bind_eq_bind, Option.bind_eq_some_iff] at told
    obtain ⟨_, ⟨first, rfl, idRead⟩, _, _, _, _, _, ⟨second, rfl, stateRead⟩, _, _, same⟩ := told
    obtain rfl := Option.some.inj same
    have leaves := leaves_of_isItem item
    refine ⟨fun number => ?_, fun number => ?_⟩
    · obtain ⟨stop, given, whole, token⟩ := number.exists_token stands leaves (by simp)
      obtain rfl := Option.some.inj whole
      rw [EntryId.ofNode?_of_not_fitsSigned written token beyond] at idRead
      cases idRead
    · obtain ⟨stop, given, whole, token⟩ := number.exists_token stands leaves (by simp)
      obtain rfl := Option.some.inj whole
      exact Reading.exists_eq_real_of_not_fitsSigned written token beyond stateRead
  answer whole stands raw accepted := by
    have leaves := leaves_document document
    obtain ⟨root, again, decoded⟩ := read_eq_ok_iff.mp accepted
    obtain ⟨rfl, -⟩ := Document.mk.inj (whole.symm.trans again)
    obtain ⟨parts, others, told⟩ := RawAnswer.decoder_eq_ok_iff.mp decoded
    obtain rfl := stands.unique others
    rw [whole] at leaves
    simp only [RawAnswer.ofParts?, Option.bind_eq_bind, Option.bind_eq_some_iff] at told
    obtain ⟨_, idRead, _, stateRead, same⟩ := told
    obtain rfl := Option.some.inj same
    refine ⟨fun number => ?_, fun number => ?_⟩
    · obtain ⟨stop, given, rfl, token⟩ := number.exists_token stands leaves (by simp)
      simp only [nullable?, EntryId.ofNode?_of_not_fitsSigned written token beyond] at idRead
      cases idRead
    · obtain ⟨stop, given, rfl, token⟩ := number.exists_token stands leaves (by simp)
      obtain ⟨state, found, rfl⟩ := Option.map_eq_some_iff.mp stateRead
      obtain ⟨x, rfl⟩ := Reading.exists_eq_real_of_not_fitsSigned written token beyond found
      exact ⟨x, rfl⟩

end

/-- An integer of 64 bits with a sign keeps its digits wherever it stands for an identifier or a
state, and no other integer has them; of all others, none is an identifier, and what becomes of
them as states is a floating-point number. -/
theorem integer_keeps_its_digits {document : String} {literal : IntegerLiteral} {place : Nat}
    (written : literal.StandsAt place document) :
    (FitsSigned literal → KeepsDigits document place literal.toText ∧
      ∀ other : IntegerLiteral, other.toText = literal.toText → other = literal) ∧
    (¬ FitsSigned literal → LosesDigits document place) :=
  ⟨fun fits => ⟨keepsDigits written fits, fun _ same => IntegerLiteral.toText_injective same⟩,
    losesDigits written⟩

theorem least_integer_keeps_its_digits :
    ∃ raw answer,
      Json.read RawAnswer.decoder "\x7b\"id\":-9223372036854775808,\"state\":7\x7d" = .ok raw ∧
      Client.complete raw = .ok answer ∧ answer.toUpdate = ⟨"-9223372036854775808", "7"⟩ := by
  have leastWritten : (IntegerLiteral.mk true 9223372036854775808).StandsAt 6
      "\x7b\"id\":-9223372036854775808,\"state\":7\x7d" :=
    ⟨"\x7b\"id\":".toList, ",\"state\":7\x7d".toList,
      by decide +kernel, by decide +kernel, by simp [Delimited]⟩
  have sevenWritten : (IntegerLiteral.mk false 7).StandsAt 35
      "\x7b\"id\":-9223372036854775808,\"state\":7\x7d" :=
    ⟨"\x7b\"id\":-9223372036854775808,\"state\":".toList, ['\x7d'],
      by decide +kernel, by decide +kernel, by simp [Delimited]⟩
  have whole : Document.ofText "\x7b\"id\":-9223372036854775808,\"state\":7\x7d" =
      ⟨.object 0 37
        (.member ⟨.ok "id", 5, 5⟩ (.number 6 26 (.ok (.whole (-9223372036854775808)))) 26
          (.member ⟨.ok "state", 34, 34⟩ (.number 35 36 (.ok (.whole 7))) 37 .closed)), none⟩ := by
    with_unfolding_all rfl
  have once : ∀ name ∈ ["id", "state"], ["id", "state"].count name ≤ 1 := by decide
  have fits (id state : Node) : Fits ["id", "state"] [] [("id", id), ("state", state)] :=
    ⟨once, by simp⟩
  have parts : Node.Parts ["id", "state"]
      (.object 0 37
        (.member ⟨.ok "id", 5, 5⟩ (.number 6 26 (.ok (.whole (-9223372036854775808)))) 26
          (.member ⟨.ok "state", 34, 34⟩ (.number 35 36 (.ok (.whole 7))) 37 .closed)))
      [some (.number 6 26 (.ok (.whole (-9223372036854775808)))),
        some (.number 35 36 (.ok (.whole 7)))] :=
    .members rfl (fits _ _)
  obtain ⟨id, -, accepted⟩ :=
    ((integer_keeps_its_digits leastWritten).1 ⟨by decide, by decide⟩).1.answer whole parts
  obtain ⟨-, state, -⟩ :=
    ((integer_keeps_its_digits sevenWritten).1 ⟨by decide, by decide⟩).1.answer whole parts
  have leastText : IntegerLiteral.toText ⟨true, 9223372036854775808⟩ = "-9223372036854775808" := by
    decide +kernel
  have sevenText : IntegerLiteral.toText ⟨false, 7⟩ = "7" := by decide +kernel
  exact (accepted _).mpr
    ⟨(id ⟨_, _, rfl⟩).trans (congrArg some leastText),
      (state ⟨_, _, rfl⟩).trans (congrArg some sevenText)⟩

/-- Just above 64 bits with a sign an identifier is refused, and two states become the same. -/
theorem greater_integers_lose_their_digits :
    (Json.read Entry.listDecoder
      "[\x7b\"id\":9223372036854775808,\"name\":\"Lamp\",\"type_name\":\"light\",\"state\":1\x7d]"
      ).toOption = none ∧
    ((Json.read RawAnswer.decoder "\x7b\"id\":1,\"state\":9223372036854775808\x7d").toOption.bind
      RawAnswer.state).map Reading.toText = some "9223372036854776000" ∧
    ((Json.read RawAnswer.decoder "\x7b\"id\":1,\"state\":9223372036854775809\x7d").toOption.bind
      RawAnswer.state).map Reading.toText = some "9223372036854776000" := by
  decide +kernel

end DevicePanel.Hub
