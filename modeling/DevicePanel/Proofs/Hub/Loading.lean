import DevicePanel.Proofs.Board.Index
import DevicePanel.Proofs.Hub.Exchange
import DevicePanel.Proofs.Listing.Order

/-!
# Loading the board from the hub

A board is filled with everything that the hub lists or with nothing.  A listing counts if the hub
answers with success, all of the document can be read, and no two entries name the same device.
-/

namespace DevicePanel

open Hub

/-- The row of an entry, with a button for each command in the order of the entry. -/
def Board.DeviceRow.ofEntry (entry : Entry) : Board.DeviceRow where
  id := entry.id.toText
  leading := ""
  name := entry.name
  state := entry.state.toText
  buttons := entry.commands.map fun command => ⟨entry.id.toText, command⟩

namespace Hub.Client

theorem devices_eq_ok_iff {client : Client} {network : Network} {devices : List Device} :
    client.devices network = .ok devices ↔
      ∃ entries, (client.list network).result = .ok entries ∧
        entries.map Entry.toDevice = devices := by
  unfold Client.devices
  cases (client.list network).result <;> simp

end Hub.Client

theorem Listing.ofSource_eq_ok_iff {source : Except ListingFault (List Device)}
    {listing : List Device} : ofSource source = .ok listing ↔
      ∃ devices, source = .ok devices ∧ (devices.map Device.id).Nodup ∧
        sorted devices = listing := by
  cases source <;> simp [ofSource, accept_eq_ok_iff]

namespace Run

theorem load_eq_ok_iff {client : Client} {network : Network} {run : Run} {listing : List Device} :
    (run.load (client.devices network)).2 = .ok listing ↔
      ∃ entries, (client.list network).result = .ok entries ∧
        (entries.map fun entry => entry.id.toText).Nodup ∧
        Listing.sorted (entries.map Entry.toDevice) = listing := by
  have ids (entries : List Entry) : (entries.map Entry.toDevice).map Device.id =
      entries.map fun entry => entry.id.toText := List.map_map
  simp only [load, Listing.ofSource_eq_ok_iff, Client.devices_eq_ok_iff]
  constructor
  · rintro ⟨_, ⟨entries, listed, rfl⟩, distinct, sorted⟩
    exact ⟨entries, listed, ids entries ▸ distinct, sorted⟩
  · rintro ⟨entries, listed, distinct, sorted⟩
    exact ⟨_, ⟨entries, listed, rfl⟩, (ids entries).symm ▸ distinct, sorted⟩

theorem board_load_of_ok {run : Run} {source : Except ListingFault (List Device)}
    {listing : List Device} (loaded : (run.load source).2 = .ok listing) :
    (run.load source).1.desk.board = .ofDevices listing := by
  have same : Listing.ofSource source = .ok listing := loaded
  simp only [load, same]
  rfl

theorem board_load_of_error {run : Run} {source : Except ListingFault (List Device)}
    {fault : ListingFault} (failed : (run.load source).2 = .error fault) :
    (run.load source).1.desk.board = .empty := by
  have same : Listing.ofSource source = .error fault := failed
  simp only [load, same]
  rfl

/-- Loading asks the hub once for its list, if its address is one of the web.  It succeeds exactly
if the hub answers with success and a document that lists entries with distinct identifiers, told
apart as texts.  Then the board has the rows of these entries and no other rows of devices; and
whenever loading fails the board is empty, whatever it showed before. -/
theorem loading_shows_all_or_nothing (client : Client) (network : Network) (run : Run) :
    let later := run.load (client.devices network)
    client.listRequest.method = .get ∧
    (client.list network).sent = (if client.base.isWeb then [client.listRequest] else []) ∧
    ((∃ listing, later.2 = .ok listing) ↔ client.base.isWeb ∧ ∃ document entries,
      (network client.listRequest).Brings document ∧ Entry.ListedIn document entries ∧
      (entries.map fun entry => entry.id.toText).Nodup) ∧
    (∀ listing document entries, later.2 = .ok listing →
      (network client.listRequest).Brings document → Entry.ListedIn document entries →
      (later.1.desk.board.rows.filterMap Board.Row.device?).Perm
        (entries.map Board.DeviceRow.ofEntry)) ∧
    (∀ fault, later.2 = .error fault → later.1.desk.board = .empty) := by
  intro later
  refine ⟨rfl, client.sent_list network, ?_, ?_, fun fault => board_load_of_error⟩
  · constructor
    · rintro ⟨listing, loaded⟩
      obtain ⟨entries, listed, distinct, -⟩ := load_eq_ok_iff.mp loaded
      obtain ⟨web, document, brings, lists⟩ := Client.list_eq_ok_iff.mp listed
      exact ⟨web, document, entries, brings, lists, distinct⟩
    · rintro ⟨web, document, entries, brings, lists, distinct⟩
      have listed := Client.list_eq_ok_iff.mpr ⟨web, document, brings, lists⟩
      exact ⟨_, load_eq_ok_iff.mpr ⟨entries, listed, distinct, rfl⟩⟩
  · intro listing document entries loaded brings lists
    obtain ⟨others, listed, -, rfl⟩ := load_eq_ok_iff.mp loaded
    obtain ⟨web, -⟩ := Client.list_eq_ok_iff.mp listed
    have again := Client.list_eq_ok_iff.mpr ⟨web, document, brings, lists⟩
    obtain rfl : others = entries := Except.ok.inj (listed.symm.trans again)
    have rows : later.1.desk.board.rows.filterMap Board.Row.device? =
        (Listing.sorted (others.map Entry.toDevice)).map Board.DeviceRow.ofDevice := by
      rw [board_load_of_ok loaded]
      exact Board.filterMap_device?_rowsAfter none _
    have same : others.map Board.DeviceRow.ofEntry =
        (others.map Entry.toDevice).map Board.DeviceRow.ofDevice := by
      rw [List.map_map]
      rfl
    rw [rows, same]
    exact (Listing.sorted_perm _).map _

/-- A lamp is shown when it is listed once, and no longer when it is listed twice: `7` and `"7"`
name one device. -/
theorem loading_shows_lamp_or_nothing :
    let client : Client :=
      ⟨⟨"http".toList, ⟨[], []⟩, some (.domain "hub".toList), none, .segments [[]], none, none⟩,
        none, 30, .json⟩
    let number := "\x7b\"id\":7,\"name\":\"Lamp\",\"type_name\":\"Light\",\"state\":true\x7d"
    let text := "[\"7\",\"Lamp\",\"Light\",true]"
    let hub (document : String) : Network := fun _ => .answered 200 (document.toList.map Char.toNat)
    let once := (start .supersede 10).load (client.devices (hub ("[" ++ number ++ "]")))
    let twice := once.1.load (client.devices (hub ("[" ++ number ++ "," ++ text ++ "]")))
    (∃ listing, once.2 = .ok listing) ∧
    (once.1.desk.board.rows.filterMap Board.Row.device?).Perm [⟨"7", "", "Lamp", "true", []⟩] ∧
    (∀ listing, twice.2 ≠ .ok listing) ∧ twice.1.desk.board = .empty := by
  intro client number text hub once twice
  let lamp (id : EntryId) : Entry := ⟨id, "Lamp", "Light", .flag true, []⟩
  let received (document : String) : String :=
    String.ofList (Text.Utf8.decodeLossy (document.toList.map Char.toNat))
  have brings (document : String) :
      (hub document client.listRequest).Brings (received document) :=
    ⟨200, _, rfl, by decide, by decide, rfl⟩
  have onceListed : Entry.ListedIn (received ("[" ++ number ++ "]")) [lamp (.number 7)] :=
    Entry.read_listDecoder_eq_ok_iff.mp (Json.toOption_eq_some_iff.mp (by decide +kernel))
  have twiceRead : Json.read Entry.listDecoder (received ("[" ++ number ++ "," ++ text ++ "]")) =
      .ok [lamp (.number 7), lamp (.text "7")] :=
    Json.toOption_eq_some_iff.mp (by decide +kernel)
  obtain ⟨-, -, once_iff, rows, -⟩ :=
    loading_shows_all_or_nothing client (hub ("[" ++ number ++ "]")) (start .supersede 10)
  obtain ⟨-, -, twice_iff, -, failed⟩ := loading_shows_all_or_nothing client
    (hub ("[" ++ number ++ "," ++ text ++ "]")) once.1
  have loaded : ∃ listing, once.2 = .ok listing :=
    once_iff.mpr ⟨rfl, _, _, brings _, onceListed, by simp⟩
  have refused : ∀ listing, twice.2 ≠ .ok listing := by
    intro listing accepted
    obtain ⟨-, document, entries, found, listed, distinct⟩ := twice_iff.mp ⟨listing, accepted⟩
    obtain rfl := found.unique (brings _)
    rw [← Entry.read_listDecoder_eq_ok_iff, twiceRead] at listed
    obtain rfl := Except.ok.inj listed
    exact absurd distinct (by decide +kernel)
  refine ⟨loaded, ?_, refused, ?_⟩
  · obtain ⟨listing, accepted⟩ := loaded
    exact rows listing _ _ accepted (brings _) onceListed
  · cases answer : twice.2 with
    | ok listing => exact absurd answer (refused listing)
    | error fault => exact failed fault answer

end Run

end DevicePanel
