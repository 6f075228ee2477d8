import DevicePanel.Proofs.Json.Records
import DevicePanel.Proofs.Json.Saying
import Mathlib.Data.List.Nodup

/-!
# Reading what was written

A decoder that makes something of every node that says a value makes the same of the text of
the value.  Records are read so field by field, in the order in which they are written.
-/

namespace DevicePanel.Json

/-- Every node that says the value is read as `a`, below `depth` brackets that may be opened. -/
def Decodes {α : Type} (decode : Decoder α) (depth : Nat) (value : Value) (a : α) : Prop :=
  ∀ node : Node, node.Says value → decode depth node = .ok a

/-- What every node is read as is read from each text that is cut into the tokens of the value. -/
theorem Decodes.read_of_cutInto {α : Type} {decode : Decoder α} {value : Value} {a : α}
    (decodes : Decodes decode deepest value a) {piece blanks : List Char}
    (cut : CutInto piece value.kinds) (blank : ∀ c ∈ blanks, isBlank c = true) :
    Json.read decode (String.ofList (piece ++ blanks)) = .ok a := by
  obtain ⟨root, whole, said⟩ := ofChars_of_cutInto cut blank
  refine read_eq_ok_iff.mpr ⟨root, ?_, decodes root said⟩
  rw [Document.ofText, String.toList_ofList, whole]

theorem Decodes.read {α : Type} {decode : Decoder α} {value : Value} {a : α}
    (decodes : Decodes decode deepest value a) (exact : value.Exact) :
    read decode value.compactText = .ok a := by
  have whole := decodes.read_of_cutInto (cutInto_compact exact) (List.forall_mem_nil _)
  rwa [List.append_nil] at whole

/-- The text of a record is read as the record, and is the same when it is written again. -/
def ReadBack {α : Type} (decode : Decoder α) (write : α → Value) (a : α) : Prop :=
  read decode (write a).compactText = .ok a ∧
    (read decode (write a).compactText).map (fun again => (write again).compactText) =
      .ok (write a).compactText

theorem ReadBack.of_decodes {α : Type} {decode : Decoder α} {write : α → Value} {a : α}
    (decodes : Decodes decode deepest (write a) a) (exact : (write a).Exact) :
    ReadBack decode write a := by
  have same := decodes.read exact
  exact ⟨same, by rw [same]; rfl⟩

/-! ## Single values and lists -/

theorem decodes_string (depth : Nat) (s : String) : Decodes string depth (.text s) s := by
  rintro _ ⟨⟩
  rfl

theorem decodes_anyValue_bool (depth : Nat) (b : Bool) :
    Decodes anyValue depth (.bool b) (.bool b) := by
  rintro _ ⟨⟩
  rfl

theorem decodes_anyValue_number (depth : Nat) (n : Numeral) :
    Decodes anyValue depth (.number n) (.number n) := by
  rintro _ ⟨⟩
  rfl

theorem decodes_anyValue_text (depth : Nat) (s : String) :
    Decodes anyValue depth (.text s) (.text s) := by
  rintro _ ⟨⟩
  rfl

theorem Decodes.list {α : Type} {decode : Decoder α} {depth : Nat} {values : List Value}
    {items : List α} (decodes : List.Forall₂ (Decodes decode depth) values items) :
    Decodes (list decode) (depth + 1) (.list values) items := by
  have readItems {rest : Items} {values : List Value} {items : List α} (stop : Nat)
      (say : rest.Say values) (decodes : List.Forall₂ (Decodes decode depth) values items) :
      listItems decode depth stop rest = .ok items := by
    induction decodes generalizing rest with
    | nil => cases say; rfl
    | cons first _ ih =>
        cases say with
        | item said say => simp [listItems, first _ said, ih say, Except.map]
  rintro _ (_ | _ | _ | _ | ⟨start, stop, say⟩)
  exact readItems stop say decodes

/-- A list is read as any value when its items are. -/
theorem decodes_anyValue_list {depth : Nat} {items : List Value}
    (decodes : ∀ item ∈ items, Decodes anyValue depth item item) :
    Decodes anyValue (depth + 1) (.list items) (.list items) := by
  have readItems {rest : Items} {items : List Value} (say : rest.Say items)
      (decodes : ∀ item ∈ items, Decodes anyValue depth item item) :
      anyItems depth rest = .ok items := by
    induction items generalizing rest with
    | nil => cases say; rfl
    | cons item items ih =>
        obtain ⟨first, others⟩ := List.forall_mem_cons.mp decodes
        cases say with
        | item said say => simp [anyItems, first _ said, ih say others, Except.map]
  rintro _ (_ | _ | _ | _ | ⟨start, stop, say⟩)
  rw [anyValue, readItems say decodes]
  rfl

/-- An object is read as any value when its members are. -/
theorem decodes_anyValue_object {depth : Nat} {members : List (String × Value)}
    (decodes : ∀ member ∈ members, Decodes anyValue depth member.2 member.2) :
    Decodes anyValue (depth + 1) (.object members) (.object members) := by
  have readMembers {rest : Members} {pairs : List (String × Value)} (say : rest.Say pairs)
      (decodes : ∀ pair ∈ pairs, Decodes anyValue depth pair.2 pair.2) :
      anyMembers depth rest = .ok pairs := by
    induction pairs generalizing rest with
    | nil => cases say; rfl
    | cons pair pairs ih =>
        obtain ⟨first, others⟩ := List.forall_mem_cons.mp decodes
        cases say with
        | member next named said say =>
            simp [anyMembers, named, first _ said, ih say others, Except.map]
  rintro _ (_ | _ | _ | _ | _ | ⟨start, stop, say⟩)
  rw [anyValue, readMembers say decodes]
  rfl

theorem decodes_texts (depth : Nat) (items : List String) :
    Decodes (list string) (depth + 1) (.texts items) items :=
  Decodes.list (List.forall₂_map_left_iff.mpr
    (List.forall₂_same.mpr fun item _ => decodes_string depth item))

theorem exact_texts (items : List String) : (Value.texts items).Exact := by
  refine .list fun item member => ?_
  obtain ⟨text, -, rfl⟩ := List.mem_map.mp member
  exact .text text

theorem decodes_anyValue_texts (depth : Nat) (items : List String) :
    Decodes anyValue (depth + 1) (.texts items) (.texts items) := by
  refine decodes_anyValue_list fun item member => ?_
  obtain ⟨text, -, rfl⟩ := List.mem_map.mp member
  exact decodes_anyValue_text depth text

theorem Decodes.optional {α : Type} {decode : Decoder α} {depth : Nat} {value : Value} {a : α}
    (decodes : Decodes decode depth value a) (present : value ≠ .null) :
    Decodes (optional decode) depth value (some a) := by
  intro node said
  have read := decodes node said
  cases said with
  | null => exact absurd rfl present
  | _ => simp [Json.optional, read, Except.map]

/-! ## Records -/

section

variable {σ : Type}

/-- Nodes that say these values are read as the fields in their order, from one draft to another. -/
def Fills (depth : Nat) (fields : List (Field σ)) (values : List Value) (draft final : σ) : Prop :=
  ∀ nodes, List.Forall₂ Node.Says nodes values → readItems depth fields nodes draft = some final

theorem Fills.nil (depth : Nat) (draft : σ) : Fills depth [] [] draft draft := by
  rintro _ ⟨⟩
  rfl

theorem Fills.cons {depth : Nat} {field : Field σ} {fields : List (Field σ)} {value : Value}
    {values : List Value} {set : σ → σ} {draft final : σ}
    (first : Decodes field.read depth value set)
    (others : Fills depth fields values (set draft) final) :
    Fills depth (field :: fields) (value :: values) draft final := by
  rintro _ (_ | ⟨said, say⟩)
  simpa [readItems, first _ said, Except.toOption] using others _ say

theorem Fills.required {α : Type} {depth : Nat} {name : String} {decode : Decoder α}
    {set : α → σ → σ} {fields : List (Field σ)} {value : Value} {values : List Value} {a : α}
    {draft final : σ} (first : Decodes decode depth value a)
    (others : Fills depth fields values (set a draft) final) :
    Fills depth (.required name decode set :: fields) (value :: values) draft final :=
  .cons (fun node said => by simp [Field.required, first node said, Except.map]) others

theorem Fills.defaulted {α : Type} {depth : Nat} {name : String} {decode : Decoder α}
    {set : α → σ → σ} {fields : List (Field σ)} {value : Value} {values : List Value} {a : α}
    {draft final : σ} (first : Decodes decode depth value a)
    (others : Fills depth fields values (set a draft) final) :
    Fills depth (.defaulted name decode set :: fields) (value :: values) draft final :=
  .cons (fun node said => by simp [Field.defaulted, first node said, Except.map]) others

theorem find?_name_of_mem {fields : List (Field σ)} (distinct : (fields.map Field.name).Nodup)
    {field : Field σ} (member : field ∈ fields) :
    fields.find? (fun other => other.name == field.name) = some field := by
  cases found : fields.find? fun other => other.name == field.name with
  | none => exact absurd (List.mem_map_of_mem member) (find?_name_eq_none_iff.mp found)
  | some other =>
      have same : other.name = field.name := by simpa using List.find?_some found
      rw [List.inj_on_of_nodup_map distinct (List.mem_of_find?_eq_some found) member same]

theorem Members.eq_closed_of_pairs? {members : Members} (closed : members.pairs? = some []) :
    members = .closed := by
  cases members with
  | closed => rfl
  | _ => simp [Members.pairs?, Option.bind_eq_some_iff] at closed

theorem Members.eq_member_of_pairs? {members : Members} {pair : String × Node}
    {later : List (String × Node)} (closed : members.pairs? = some (pair :: later)) :
    ∃ key next others, members = .member key pair.2 next others ∧ key.name = .ok pair.1 ∧
      others.pairs? = some later := by
  cases members with
  | member key node next others =>
      simp only [Members.pairs?, Option.bind_eq_some_iff, Option.map_eq_some_iff,
        toOption_eq_some_iff] at closed
      obtain ⟨name, keyed, rest, closed, same⟩ := closed
      obtain ⟨rfl, rfl⟩ := List.cons.inj same
      exact ⟨key, next, others, rfl, keyed, closed⟩
  | _ => simp [Members.pairs?] at closed

/-- Members that are named like the fields are read like the items of a list. -/
theorem recordMembers_of_readItems {fields : List (Field σ)}
    (distinct : (fields.map Field.name).Nodup) {depth : Nat} {rest : List (Field σ)}
    (part : rest.Sublist fields) {members : Members} {pairs : List (String × Node)}
    (closed : members.pairs? = some pairs) (named : pairs.map Prod.fst = rest.map Field.name)
    {draft final : σ} (read : readItems depth rest (pairs.map Prod.snd) draft = some final)
    {seen : List String} (fresh : ∀ field ∈ rest, field.name ∉ seen) :
    recordMembers fields depth draft seen members =
      .ok (final, (rest.map Field.name).reverse ++ seen) := by
  induction rest generalizing members pairs draft seen with
  | nil =>
      obtain rfl := List.map_eq_nil_iff.mp named
      obtain rfl := Members.eq_closed_of_pairs? closed
      simpa [recordMembers, readItems] using read
  | cons field rest ih =>
      obtain ⟨⟨_, node⟩, later, rfl, rfl, namedLater⟩ := List.map_eq_cons_iff.mp named
      obtain ⟨key, next, others, rfl, keyed, closedLater⟩ := Members.eq_member_of_pairs? closed
      simp only [List.map_cons, readItems, Option.bind_eq_some_iff,
        toOption_eq_some_iff] at read
      obtain ⟨set, readFirst, readLater⟩ := read
      have known := find?_name_of_mem distinct (part.subset List.mem_cons_self)
      have notAgain : field.name ∉ rest.map Field.name :=
        (List.nodup_cons.mp (distinct.sublist (part.map Field.name))).1
      have freshLater : ∀ other ∈ rest, other.name ∉ field.name :: seen := by
        intro other member
        rw [List.mem_cons, not_or]
        refine ⟨?_, fresh other (List.mem_cons_of_mem _ member)⟩
        intro same
        exact notAgain (same ▸ List.mem_map_of_mem member)
      have notYet : seen.contains field.name = false := by
        simpa using fresh field List.mem_cons_self
      simp only [recordMembers, keyed, known, notYet, readFirst, Bool.false_eq_true, if_false]
      rw [ih ((List.sublist_cons_self field rest).trans part) closedLater namedLater readLater
        freshLater]
      simp

theorem Members.Say.pairs? {members : Members} {pairs : List (String × Value)}
    (say : members.Say pairs) :
    ∃ nodes, members.pairs? = some nodes ∧ nodes.map Prod.fst = pairs.map Prod.fst ∧
      List.Forall₂ Node.Says (nodes.map Prod.snd) (pairs.map Prod.snd) := by
  induction pairs generalizing members with
  | nil =>
      cases say
      exact ⟨[], rfl, rfl, .nil⟩
  | cons pair pairs ih =>
      cases say with
      | @member key node _ name _ _ next named said others =>
          obtain ⟨nodes, closed, names, all⟩ := ih others
          refine ⟨(name, node) :: nodes, ?_, by simp [names], .cons said all⟩
          simp [Members.pairs?, named, closed, Except.toOption]

theorem fillAbsent_of_seen {stop : Nat} {seen : List String} {fields : List (Field σ)}
    (all : ∀ field ∈ fields, field.name ∈ seen) (draft : σ) :
    fillAbsent stop seen fields draft = .ok draft := by
  induction fields with
  | nil => rfl
  | cons field fields ih =>
      rw [fillAbsent, if_pos (List.contains_iff_mem.mpr (all field (by simp)))]
      exact ih fun other member => all other (List.mem_cons_of_mem _ member)

/-- An object with a member for each field, in their order, is read as the record. -/
theorem Fills.record {name : String} {depth : Nat} {fields : List (Field σ)} {draft final : σ}
    {pairs : List (String × Value)}
    (fills : Fills depth fields (pairs.map Prod.snd) draft final)
    (distinct : (fields.map Field.name).Nodup)
    (named : pairs.map Prod.fst = fields.map Field.name) :
    Decodes (record name fields draft) (depth + 1) (.object pairs) final := by
  rintro _ (_ | _ | _ | _ | _ | ⟨start, stop, say⟩)
  obtain ⟨nodes, closed, names, all⟩ := say.pairs?
  have fresh : ∀ field ∈ fields, field.name ∉ ([] : List String) := by simp
  have read := recordMembers_of_readItems distinct (List.Sublist.refl fields) closed
    (names.trans named) (fills _ all) fresh
  rw [Json.record, read]
  refine fillAbsent_of_seen (fun field member => ?_) final
  simpa using ⟨field, member, rfl⟩

end

end DevicePanel.Json
