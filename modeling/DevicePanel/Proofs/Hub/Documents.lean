import DevicePanel.Hub.Client
import DevicePanel.Proofs.Json.Records

/-!
# What the hub's documents say

A listing is a list of entries and an answer is one record.  Both are read off the tree of the
text: an entry from what stands for its fields, the identifier and the state from a single node,
without asking which fault a decoder would meet first.
-/

namespace DevicePanel.Hub

open DevicePanel.Json

/-! ## Identifiers, states and commands -/

/-- The identifier that a node is: a text or a whole number of 64 bits with a sign. -/
def EntryId.ofNode? (node : Node) : Option EntryId := node.scalar?.bind EntryId.ofJson?

/-- The state that a node is: a text, a number or a truth value. -/
def Reading.ofNode? (node : Node) : Option Reading := node.scalar?.bind Reading.ofJson?

theorem EntryId.toOption_decoder (depth : Nat) (node : Node) :
    (EntryId.decoder depth node).toOption = EntryId.ofNode? node := by
  rw [ofNode?, ← bind_toOption_anyValue (fun _ => rfl) (fun _ => rfl) depth node, decoder]
  cases anyValue depth node with
  | error fault => rfl
  | ok value => cases found : ofJson? value <;> simp [Except.toOption, found]

theorem Reading.toOption_decoder (depth : Nat) (node : Node) :
    (Reading.decoder depth node).toOption = Reading.ofNode? node := by
  rw [ofNode?, ← bind_toOption_anyValue (fun _ => rfl) (fun _ => rfl) depth node, decoder]
  cases anyValue depth node with
  | error fault => rfl
  | ok value => cases found : ofJson? value <;> simp [Except.toOption, found]

/-- The commands of an entry, none if there is nothing or `null`. -/
def commands? (part : Option Node) : Option (List String) :=
  (nullable? Node.texts? part).map fun commands => commands.getD []

/-! ## Entries -/

namespace Entry

def names : List String := ["id", "name", "type_name", "state", "commands"]

/-- The entry of which this stands for the fields. -/
def ofParts? : List (Option Node) → Option Entry
  | [id, name, typeName, state, commands] => do
      let id ← id.bind EntryId.ofNode?
      let name ← name.bind Node.text?
      let typeName ← typeName.bind Node.text?
      let state ← state.bind Reading.ofNode?
      let commands ← commands? commands
      some ⟨id, name, typeName, state, commands⟩
  | _ => none

/-- The node says this entry. -/
def SaidBy (node : Node) (entry : Entry) : Prop :=
  ∃ parts, node.Parts names parts ∧ ofParts? parts = some entry

theorem independent_fields : fields.Pairwise Field.Independent := by
  have id := Field.sets_required "id" EntryId.decoder fun id (entry : Entry) => { entry with id }
  have name := Field.sets_required "name" string fun name (entry : Entry) => { entry with name }
  have typeName := Field.sets_required "type_name" string
    fun typeName (entry : Entry) => { entry with typeName }
  have state := Field.sets_required "state" Reading.decoder
    fun state (entry : Entry) => { entry with state }
  have commands := Field.sets_defaulted "commands" (Json.optional (list string))
    fun commands (entry : Entry) => { entry with commands := commands.getD [] }
  simp only [fields, List.pairwise_cons, List.forall_mem_cons, List.not_mem_nil, false_implies,
    implies_true, List.Pairwise.nil, and_true]
  exact ⟨⟨Field.independent_of_sets id name fun _ _ _ => rfl,
      Field.independent_of_sets id typeName fun _ _ _ => rfl,
      Field.independent_of_sets id state fun _ _ _ => rfl,
      Field.independent_of_sets id commands fun _ _ _ => rfl⟩,
    ⟨Field.independent_of_sets name typeName fun _ _ _ => rfl,
      Field.independent_of_sets name state fun _ _ _ => rfl,
      Field.independent_of_sets name commands fun _ _ _ => rfl⟩,
    ⟨Field.independent_of_sets typeName state fun _ _ _ => rfl,
      Field.independent_of_sets typeName commands fun _ _ _ => rfl⟩,
    Field.independent_of_sets state commands fun _ _ _ => rfl⟩

theorem regular_fields : ∀ field ∈ fields, field.Regular := by
  simp only [fields, List.forall_mem_cons, List.not_mem_nil, false_implies, implies_true, and_true]
  exact ⟨Field.regular_required .., Field.regular_required .., Field.regular_required ..,
    Field.regular_required .., Field.regular_defaulted ..⟩

theorem readFields_fields (depth : Nat) (pairs : List (String × Node)) :
    readFields (depth + 1) pairs fields ⟨.text "", "", "", .text "", []⟩ =
      ofParts? (names.map fun name => pairs.lookup name) := by
  simp only [fields, readFields, Field.setting?_required, Field.setting?_defaulted, names,
    List.map_cons, List.map_nil, ofParts?, EntryId.toOption_decoder, Reading.toOption_decoder,
    toOption_string, Option.bind_map, Function.comp_def]
  cases pairs.lookup "commands" with
  | none => rfl
  | some node =>
      simp only [commands?, ← toOption_optional (toOption_texts depth), Option.bind_map,
        Option.bind_eq_bind, Function.comp_def]

theorem decoder_eq_ok_iff {depth : Nat} {node : Node} {entry : Entry} :
    decoder (depth + 2) node = .ok entry ↔ SaidBy node entry :=
  record_eq_ok_iff_parts (by decide) independent_fields regular_fields (readFields_fields depth)

/-- The text is a list with nothing after it, and its items say these entries. -/
def ListedIn (document : String) (entries : List Entry) : Prop :=
  ∃ start stop items nodes, Document.ofText document = ⟨.list start stop items, none⟩ ∧
    items.nodes? = some nodes ∧ List.Forall₂ SaidBy nodes entries

theorem read_listDecoder_eq_ok_iff {document : String} {entries : List Entry} :
    Json.read listDecoder document = .ok entries ↔ ListedIn document entries := by
  have read_iff (node : Node) (entry : Entry) :
      decoder 126 node = .ok entry ↔ SaidBy node entry := decoder_eq_ok_iff
  rw [read_eq_ok_iff]
  constructor
  · rintro ⟨root, whole, read⟩
    obtain ⟨start, stop, items, nodes, rfl, closed, all⟩ := list_eq_ok_iff.mp read
    exact ⟨start, stop, items, nodes, whole, closed,
      all.imp fun node entry => (read_iff node entry).mp⟩
  · rintro ⟨start, stop, items, nodes, whole, closed, all⟩
    exact ⟨_, whole, list_eq_ok_iff.mpr ⟨start, stop, items, nodes, rfl, closed,
      all.imp fun node entry => (read_iff node entry).mpr⟩⟩

end Entry

/-! ## Answers -/

namespace RawAnswer

theorem independent_fields : [
    Field.defaulted "id" (Json.optional EntryId.decoder) fun id (answer : RawAnswer) =>
      { answer with id },
    Field.defaulted "state" (Json.optional Reading.decoder) fun state answer =>
      { answer with state }].Pairwise Field.Independent := by
  have id := Field.sets_defaulted "id" (Json.optional EntryId.decoder)
    fun id (answer : RawAnswer) => { answer with id }
  have state := Field.sets_defaulted "state" (Json.optional Reading.decoder)
    fun state (answer : RawAnswer) => { answer with state }
  simpa using Field.independent_of_sets id state fun _ _ _ => rfl

/-- The answer of which this stands for the fields, complete or not. -/
def ofParts? : List (Option Node) → Option RawAnswer
  | [id, state] => do
      let id ← nullable? EntryId.ofNode? id
      let state ← nullable? Reading.ofNode? state
      some ⟨id, state⟩
  | _ => none

theorem decoder_eq_ok_iff {depth : Nat} {node : Node} {answer : RawAnswer} :
    decoder (depth + 1) node = .ok answer ↔
      ∃ parts, node.Parts ["id", "state"] parts ∧ ofParts? parts = some answer := by
  refine record_eq_ok_iff_parts (by decide) independent_fields ?_ ?_
  · simp only [List.forall_mem_cons, List.not_mem_nil, false_implies, implies_true, and_true]
    exact ⟨Field.regular_defaulted .., Field.regular_defaulted ..⟩
  · intro pairs
    change _ = ofParts? [pairs.lookup "id", pairs.lookup "state"]
    simp only [readFields, Field.setting?_defaulted, ofParts?, Option.bind_eq_bind,
      toOption_optional (EntryId.toOption_decoder depth),
      toOption_optional (Reading.toOption_decoder depth)]
    cases pairs.lookup "id" <;> cases pairs.lookup "state" <;>
      simp only [Option.bind_map, Option.bind_some, Function.comp_def] <;> rfl

end RawAnswer

namespace Answer

/-- The answer of which this stands for the fields. -/
def ofParts? : List (Option Node) → Option Answer
  | [id, state] => do
      let id ← id.bind EntryId.ofNode?
      let state ← state.bind Reading.ofNode?
      some ⟨id, state⟩
  | _ => none

/-- The text is an object or a list with nothing after it, and says this answer. -/
def ToldIn (document : String) (answer : Answer) : Prop :=
  ∃ root parts, Document.ofText document = ⟨root, none⟩ ∧ root.Parts ["id", "state"] parts ∧
    ofParts? parts = some answer

theorem ofParts?_eq_some_iff {parts : List (Option Node)} {answer : Answer} :
    ofParts? parts = some answer ↔
      RawAnswer.ofParts? parts = some ⟨some answer.id, some answer.state⟩ := by
  have id_iff (part : Option Node) (id : EntryId) :
      nullable? EntryId.ofNode? part = some (some id) ↔ part.bind EntryId.ofNode? = some id :=
    nullable?_eq_some_some_iff fun _ _ => rfl
  have state_iff (part : Option Node) (state : Reading) :
      nullable? Reading.ofNode? part = some (some state) ↔ part.bind Reading.ofNode? = some state :=
    nullable?_eq_some_some_iff fun _ _ => rfl
  obtain ⟨givenId, givenState⟩ := answer
  rcases parts with _ | ⟨first, _ | ⟨second, _ | ⟨third, others⟩⟩⟩
  · simp [ofParts?, RawAnswer.ofParts?]
  · simp [ofParts?, RawAnswer.ofParts?]
  · simp only [ofParts?, RawAnswer.ofParts?, Option.bind_eq_bind, Option.bind_eq_some_iff,
      Option.some.injEq, Answer.mk.injEq, RawAnswer.mk.injEq]
    constructor
    · rintro ⟨_, firstRead, _, secondRead, rfl, rfl⟩
      exact ⟨_, (id_iff first _).mpr (Option.bind_eq_some_iff.mpr firstRead),
        _, (state_iff second _).mpr (Option.bind_eq_some_iff.mpr secondRead), rfl, rfl⟩
    · rintro ⟨_, firstRead, _, secondRead, rfl, rfl⟩
      exact ⟨_, Option.bind_eq_some_iff.mp ((id_iff first _).mp firstRead),
        _, Option.bind_eq_some_iff.mp ((state_iff second _).mp secondRead), rfl, rfl⟩
  · simp [ofParts?, RawAnswer.ofParts?]

theorem complete_eq_ok_iff {raw : RawAnswer} {answer : Answer} :
    Client.complete raw = .ok answer ↔ raw = ⟨some answer.id, some answer.state⟩ := by
  obtain ⟨id, state⟩ := answer
  rcases raw with ⟨_ | first, _ | second⟩ <;> simp [Client.complete]

/-- A command's answer is read and complete if the text tells it. -/
theorem exists_complete_iff {document : String} {answer : Answer} :
    (∃ raw, Json.read RawAnswer.decoder document = .ok raw ∧ Client.complete raw = .ok answer) ↔
      ToldIn document answer := by
  have read_iff (node : Node) (raw : RawAnswer) : RawAnswer.decoder deepest node = .ok raw ↔
      ∃ parts, node.Parts ["id", "state"] parts ∧ RawAnswer.ofParts? parts = some raw :=
    RawAnswer.decoder_eq_ok_iff
  simp only [complete_eq_ok_iff, exists_eq_right, read_eq_ok_iff, ToldIn, read_iff,
    ofParts?_eq_some_iff, exists_and_left]

end Answer

end DevicePanel.Hub
