import DevicePanel.Hub.Entry
import DevicePanel.Proofs.Json.Rereading

/-!
# What the hub and the program write to each other is read back

The text of an entry, of a command's body, of a device or of a new state is read as just this
record: the number `7` stays a number and the text `7` a text.  Only states with a point or a
power of ten are left out here.
-/

namespace DevicePanel.Hub

open DevicePanel.Json

theorem isKept_of_isSigned64 {n : Int} (within : isSigned64 n = true) : IsKept n := by
  have bounds : -0x8000000000000000 ≤ n ∧ n < 0x8000000000000000 := by
    simpa [isSigned64] using within
  rw [IsKept, greatestNegative, greatestNatural]
  omega

/-! ## Identifiers and states -/

namespace EntryId

/-- The identifier is a text or a whole number of 64 bits with a sign. -/
def IsSigned : EntryId → Prop
  | .number n => isSigned64 n = true
  | .text _ => True

theorem exact_toJson {id : EntryId} (signed : id.IsSigned) : id.toJson.Exact := by
  cases id with
  | number n => exact .whole (isKept_of_isSigned64 signed)
  | text s => exact .text s

theorem decodes_toJson {id : EntryId} (signed : id.IsSigned) (depth : Nat) :
    Decodes decoder depth id.toJson id := by
  intro node said
  cases id with
  | number n =>
      have within : isSigned64 n = true := signed
      simp [decoder, decodes_anyValue_number depth _ node said, ofJson?, within]
  | text s => simp [decoder, decodes_anyValue_text depth s node said, ofJson?]

end EntryId

namespace Reading

/-- The state is a truth value, a text or a whole number of 64 bits with a sign. -/
def IsExact : Reading → Prop
  | .flag _ => True
  | .whole n => isSigned64 n = true
  | .real _ => False
  | .text _ => True

theorem exact_toJson {state : Reading} (exact : state.IsExact) : state.toJson.Exact := by
  cases state with
  | flag b => exact .bool b
  | whole n => exact .whole (isKept_of_isSigned64 exact)
  | real x => cases exact
  | text s => exact .text s

theorem decodes_toJson {state : Reading} (exact : state.IsExact) (depth : Nat) :
    Decodes decoder depth state.toJson state := by
  intro node said
  cases state with
  | flag b => simp [decoder, decodes_anyValue_bool depth b node said, ofJson?]
  | whole n =>
      have within : isSigned64 n = true := exact
      simp [decoder, decodes_anyValue_number depth _ node said, ofJson?, within]
  | real x => cases exact
  | text s => simp [decoder, decodes_anyValue_text depth s node said, ofJson?]

end Reading

/-! ## Records -/

theorem Entry.exact_toJson {entry : Entry} (id : entry.id.IsSigned) (state : entry.state.IsExact) :
    entry.toJson.Exact := by
  refine .object ?_
  simp only [List.forall_mem_cons, List.not_mem_nil, false_implies, implies_true, and_true]
  exact ⟨EntryId.exact_toJson id, .text _, .text _, Reading.exact_toJson state, exact_texts _⟩

theorem Entry.decodes_toJson {entry : Entry} (id : entry.id.IsSigned)
    (state : entry.state.IsExact) (depth : Nat) :
    Decodes decoder (depth + 2) entry.toJson entry := by
  have commands := (decodes_texts depth entry.commands).optional (by simp [Json.Value.texts])
  refine Fills.record ?_ (by decide) rfl
  exact .required (EntryId.decodes_toJson id _) (.required (decodes_string _ _)
    (.required (decodes_string _ _) (.required (Reading.decodes_toJson state _)
      (.defaulted commands (.nil _ _)))))

theorem CommandBody.exact_toJson (body : CommandBody) : body.toJson.Exact := by
  refine .object ?_
  simpa using .text _

theorem CommandBody.decodes_toJson (body : CommandBody) (depth : Nat) :
    Decodes decoder (depth + 1) body.toJson body :=
  Fills.record (.required (decodes_string _ _) (.nil _ _)) (by decide) rfl

end DevicePanel.Hub

namespace DevicePanel

open DevicePanel.Json

theorem Device.exact_toJson (device : Device) : device.toJson.Exact := by
  refine .object ?_
  simp only [List.forall_mem_cons, List.not_mem_nil, false_implies, implies_true, and_true]
  exact ⟨.text _, .text _, .text _, .text _, exact_texts _⟩

theorem Device.decodes_toJson (device : Device) (depth : Nat) :
    Decodes decoder (depth + 2) device.toJson device :=
  Fills.record (.required (decodes_string _ _) (.required (decodes_string _ _)
    (.required (decodes_string _ _) (.required (decodes_string _ _)
      (.required (decodes_texts depth device.commands) (.nil _ _)))))) (by decide) rfl

/-- The record of a device is the same when it is read as any value. -/
theorem Device.decodes_anyValue_toJson (device : Device) (depth : Nat) :
    Decodes anyValue (depth + 2) device.toJson device.toJson := by
  refine decodes_anyValue_object ?_
  simp only [List.forall_mem_cons, List.not_mem_nil, false_implies, implies_true, and_true]
  exact ⟨decodes_anyValue_text _ _, decodes_anyValue_text _ _, decodes_anyValue_text _ _,
    decodes_anyValue_text _ _, decodes_anyValue_texts depth device.commands⟩

theorem StateUpdate.exact_toJson (update : StateUpdate) : update.toJson.Exact := by
  refine .object ?_
  simp only [List.forall_mem_cons, List.not_mem_nil, false_implies, implies_true, and_true]
  exact ⟨.text _, .text _⟩

theorem StateUpdate.decodes_toJson (update : StateUpdate) (depth : Nat) :
    Decodes decoder (depth + 1) update.toJson update :=
  Fills.record (.required (decodes_string _ _) (.required (decodes_string _ _) (.nil _ _)))
    (by decide) rfl

namespace Hub

/-- Every entry without a real number, every body of a command, every device and every new state
is read back from its text.  The whole numbers of an entry have 64 bits with a sign. -/
theorem written_records_are_read_back :
    (∀ entry : Entry, entry.id.IsSigned → entry.state.IsExact →
      ReadBack Entry.decoder Entry.toJson entry) ∧
    (∀ body : CommandBody, ReadBack CommandBody.decoder CommandBody.toJson body) ∧
    (∀ device : Device, ReadBack Device.decoder Device.toJson device) ∧
    ∀ update : StateUpdate, ReadBack StateUpdate.decoder StateUpdate.toJson update := by
  refine ⟨?_, ?_, ?_, ?_⟩
  · intro entry id state
    exact .of_decodes (Entry.decodes_toJson id state 125) (Entry.exact_toJson id state)
  · intro body
    exact .of_decodes (body.decodes_toJson 126) body.exact_toJson
  · intro device
    exact .of_decodes (device.decodes_toJson 125) device.exact_toJson
  · intro update
    exact .of_decodes (update.decodes_toJson 126) update.exact_toJson

/-- An entry with a numeral as a text, the least whole number and all kinds of escapes. -/
def oddLamp : Entry :=
  ⟨.text "7", "\"La\\mp\" \u0001\n", "😀", .whole (-0x8000000000000000), ["true", ""]⟩

theorem odd_lamp_is_read_back :
    oddLamp.id.IsSigned ∧ oddLamp.state.IsExact ∧
      oddLamp.toJson.compactText =
        "\x7b\"id\":\"7\",\"name\":\"\\\"La\\\\mp\\\" \\u0001\\n\",\"type_name\":\"😀\"," ++
          "\"state\":-9223372036854775808,\"commands\":[\"true\",\"\"]\x7d" ∧
      ReadBack Entry.decoder Entry.toJson oddLamp :=
  ⟨trivial, rfl, by decide, written_records_are_read_back.1 oddLamp trivial rfl⟩

end Hub

end DevicePanel
