import DevicePanel.Proofs.Console.Commanding
import DevicePanel.Proofs.Hub.Rereading
import DevicePanel.Proofs.Listing.Ties
import DevicePanel.Proofs.Yaml.Telling

/-!
# Listings and answers for programs

A listing in one of the two forms of JSON is read back, as a value and as a list of devices.  The
two forms differ in blanks only, and so does an output from its listing.  The answer to a command
can be told from its text in every form that is written for programs.
-/

namespace DevicePanel.Console

open DevicePanel.Json (Value Decodes CutInto anyValue)

/-- The results are written in JSON. -/
def OutputForm.IsJson (form : OutputForm) : Prop := form = .json ∨ form = .jsonCompact

/-! ## What is written -/

/-- A value is written as a text that is cut into the tokens of the value. -/
theorem exists_structured {form : OutputForm} (json : form.IsJson) {value : Value}
    (exact : value.Exact) :
    ∃ piece, structured value form = some (String.ofList piece) ∧ CutInto piece value.kinds := by
  obtain rfl | rfl := json
  · exact ⟨_, rfl, Json.cutInto_indented exact 0⟩
  · exact ⟨_, rfl, Json.cutInto_compact exact⟩

theorem output_shown {piece : List Char} (some : piece ≠ []) :
    (Outcome.shown false (String.ofList piece)).output = String.ofList (piece ++ ['\n']) := by
  have shows : (false || (String.ofList piece).isEmpty) = false := by simpa using some
  rw [Outcome.shown, shows, if_neg Bool.false_ne_true, String.ofList_append]
  rfl

theorem listing_of_structured {form : OutputForm} {devices : List Device} {text : String}
    (written : structured (.list (devices.map Device.toJson)) form = some text) (colour : Bool) :
    listing form devices colour = text := by
  simp only [listing, written]

/-- The devices of a listing for programs are written as one value, also where there are none. -/
theorem listDevices_of_structured {options : Options} {surroundings : Surroundings}
    {client : Hub.Client} {devices : List Device} {text : String}
    (fetched : Listing.ofSource (client.devices surroundings.network) = .ok devices)
    (written : structured (.list (devices.map Device.toJson)) options.output = some text) :
    listDevices options surroundings client =
      { Outcome.shown options.quiet text with
        sent := (client.list surroundings.network).sent } := by
  rw [listDevices, fetched]
  cases devices with
  | nil =>
      -- Without devices it is only a table that is not written.
      have notTable : options.output ≠ .table := by
        intro table
        rw [table] at written
        cases written
      simp only [notTable, if_false, listing_of_structured written]
  | cons device devices => simp only [listing_of_structured written]

/-! ## What is read -/

/-- The document tells the devices: as a value it is the list of their records, and as a list of
devices just these devices. -/
structure Tells (document : String) (devices : List Device) : Prop where
  value : Json.read anyValue document = .ok (.list (devices.map fun device =>
    .object [("id", .text device.id), ("name", .text device.name),
      ("type_name", .text device.typeName), ("state", .text device.state),
      ("commands", .list (device.commands.map .text))]))
  devices : Json.read (Json.list Device.decoder) document = .ok devices

theorem tells_of_cutInto {devices : List Device} {piece blanks : List Char}
    (cut : CutInto piece (Value.list (devices.map Device.toJson)).kinds)
    (blank : ∀ c ∈ blanks, Json.isBlank c = true) :
    Tells (String.ofList (piece ++ blanks)) devices := by
  -- Both ways of reading open three brackets: the list, a device, and its commands.
  refine ⟨?_, ?_⟩
  · refine (Json.decodes_anyValue_list (List.forall_mem_map.mpr ?_)).read_of_cutInto cut blank
    intro device _
    exact device.decodes_anyValue_toJson 124
  · refine (Decodes.list (List.forall₂_map_left_iff.mpr ?_)).read_of_cutInto cut blank
    exact List.forall₂_same.mpr fun device _ => device.decodes_toJson 124

theorem exact_listing (devices : List Device) :
    (Value.list (devices.map Device.toJson)).Exact :=
  .list (List.forall_mem_map.mpr fun device _ => device.exact_toJson)

theorem tells_listDevices {options : Options} {surroundings : Surroundings} {client : Hub.Client}
    {devices : List Device}
    (fetched : Listing.ofSource (client.devices surroundings.network) = .ok devices)
    (json : options.output.IsJson) (loud : options.quiet = false) :
    Tells (listDevices options surroundings client).output devices := by
  obtain ⟨piece, written, cut⟩ := exists_structured json (exact_listing devices)
  have told : Tells (String.ofList (piece ++ ['\n'])) devices :=
    tells_of_cutInto cut (by simp [Json.isBlank])
  rw [listDevices_of_structured fetched written, loud]
  rwa [← output_shown (cut.ne_nil (Value.kinds_list_ne_nil _))] at told

theorem output_listDevices_of_quiet {options : Options} {surroundings : Surroundings}
    {client : Hub.Client} {devices : List Device}
    (fetched : Listing.ofSource (client.devices surroundings.network) = .ok devices)
    (json : options.output.IsJson) (quiet : options.quiet = true) :
    (listDevices options surroundings client).output = "" := by
  obtain ⟨piece, written, -⟩ := exists_structured json (exact_listing devices)
  rw [listDevices_of_structured fetched written, quiet]
  rfl

theorem failure_listDevices_of_isJson {options : Options} {surroundings : Surroundings}
    {client : Hub.Client} {devices : List Device}
    (fetched : Listing.ofSource (client.devices surroundings.network) = .ok devices)
    (json : options.output.IsJson) :
    (listDevices options surroundings client).failure = none := by
  obtain ⟨piece, written, -⟩ := exists_structured json (exact_listing devices)
  rw [listDevices_of_structured fetched written]
  exact Outcome.failure_shown _ _

/-- However many devices a hub has and whatever their texts are, both forms of JSON tell the fetched
devices in their order, and are one value.  Only where nothing is to be shown there is nothing to
read. -/
theorem json_listings_tell_fetched_devices (options : Options) (surroundings : Surroundings)
    (client : Hub.Client) {devices : List Device}
    (fetched : Listing.ofSource (client.devices surroundings.network) = .ok devices) :
    let outcome (form : OutputForm) :=
      listDevices { options with output := form } surroundings client
    (∀ form : OutputForm, form.IsJson → (outcome form).failure = none ∧
      (options.quiet = false → Tells (outcome form).output devices) ∧
      (options.quiet = true → (outcome form).output = "")) ∧
    Json.read anyValue (outcome .json).output =
      Json.read anyValue (outcome .jsonCompact).output := by
  intro outcome
  have tells (form : OutputForm) (json : form.IsJson) (loud : options.quiet = false) :
      Tells (outcome form).output devices := tells_listDevices fetched json loud
  have silent (form : OutputForm) (json : form.IsJson) (quiet : options.quiet = true) :
      (outcome form).output = "" := output_listDevices_of_quiet fetched json quiet
  refine ⟨fun form json => ⟨failure_listDevices_of_isJson fetched json, tells form json,
    silent form json⟩, ?_⟩
  cases isQuiet : options.quiet with
  | false =>
      rw [(tells .json (.inl rfl) isQuiet).value, (tells .jsonCompact (.inr rfl) isQuiet).value]
  | true => rw [silent .json (.inl rfl) isQuiet, silent .jsonCompact (.inr rfl) isQuiet]

example (colour : Bool) :
    listing .json [] colour = "[]" ∧ listing .jsonCompact [] colour = "[]" := ⟨rfl, rfl⟩

/-- Two devices in the order of the board, with all kinds of escapes and a device that takes no
command. -/
theorem fan_and_lamp_are_listed_in_json :
    let client : Hub.Client :=
      ⟨⟨"http".toList, ⟨[], []⟩, some (.domain "hub".toList), none, .segments [[]], none, none⟩,
        none, 30, .json⟩
    let document := "[[7,\"\\\"La\\\\mp\\\"\\u0001\\n\",\"Light\",true,[\"on\",\"\"]]," ++
      "[\"8\",\"F\\u00e4n\",\"Air\",\"7\",[]]]"
    let hub : Hub.Network := fun _ => .answered 200 (document.toList.map Char.toNat)
    let options : Options :=
      ⟨none, none, none, .table, .never, 0, false, false, none, none, none⟩
    let surroundings : Surroundings := ⟨"", none, [], ⟨[], none⟩, false, hub, fun _ => .ok ()⟩
    let outcome (form : OutputForm) :=
      listDevices { options with output := form } surroundings client
    let fetched : List Device :=
      [⟨"8", "Fän", "Air", "7", []⟩, ⟨"7", "\"La\\mp\"\u0001\n", "Light", "true", ["on", ""]⟩]
    Listing.ofSource (client.devices hub) = .ok fetched ∧
      Tells (outcome .json).output fetched ∧ Tells (outcome .jsonCompact).output fetched := by
  intro client document hub options surroundings outcome fetched
  let listed : List Device := fetched.reverse
  have distinct : (listed.map Listing.sortKey).Nodup := by decide +kernel
  have arranged : Listing.Arranges fetched listed :=
    ⟨List.Perm.swap _ _ _, by decide +kernel,
      Listing.sameTies_of_nodup distinct (List.Perm.swap _ _ _)⟩
  have found : Listing.ofSource (client.devices hub) = .ok fetched :=
    Listing.ofSource_eq_ok_iff.mpr ⟨listed, Json.toOption_eq_some_iff.mp (by decide +kernel),
      by decide, (Listing.arranges_iff.mp arranged).symm⟩
  obtain ⟨both, -⟩ := json_listings_tell_fetched_devices options surroundings client found
  exact ⟨found, (both .json (.inl rfl)).2.1 rfl, (both .jsonCompact (.inr rfl)).2.1 rfl⟩

/-! ## The answer to a command -/

theorem update_eq_of_isJson {form : OutputForm} (json : form.IsJson) {update other : StateUpdate}
    (same : structured update.toJson form = structured other.toJson form) : update = other := by
  obtain ⟨piece, written, cut⟩ := exists_structured json update.exact_toJson
  obtain ⟨piece', written', cut'⟩ := exists_structured json other.exact_toJson
  have texts : String.ofList piece = String.ofList piece' :=
    Option.some.inj (written.symm.trans (same.trans written'))
  obtain rfl := String.ofList_inj.mp texts
  have read := (update.decodes_toJson 126).read_of_cutInto cut (List.forall_mem_nil _)
  have read' := (other.decodes_toJson 126).read_of_cutInto cut' (List.forall_mem_nil _)
  exact Except.ok.inj (read.symm.trans read')

/-- The forms for programs tell identifier and state, and not the name. -/
theorem stateText_eq_iff {form : OutputForm} (noTable : form ≠ .table) (notPlain : form ≠ .plain)
    (name otherName : String) (update other : StateUpdate) :
    stateText form name update = stateText form otherName other ↔ update = other := by
  constructor
  · intro same
    cases form with
    | json => exact update_eq_of_isJson (.inl rfl) (congrArg some same)
    | jsonCompact => exact update_eq_of_isJson (.inr rfl) (congrArg some same)
    | yaml =>
        obtain ⟨id, state⟩ := update
        obtain ⟨id', state'⟩ := other
        have texts : [("id", id), ("state", state)] = [("id", id'), ("state", state')] :=
          Yaml.eq_of_document_texts_eq rfl same
        simpa using texts
    | table => exact absurd rfl noTable
    | plain => exact absurd rfl notPlain
  · rintro rfl
    cases form with
    | table => exact absurd rfl noTable
    | _ => rfl

example : stateText .yaml "Lamp" ⟨"7", "on"⟩ = "id: '7'\nstate: 'on'\n" := by
  decide +kernel

end DevicePanel.Console
