import DevicePanel.Proofs.Board.Listed
import DevicePanel.Proofs.Hub.Commanding
import DevicePanel.Proofs.Hub.Loading

/-!
# What the hub offers

A hub offers the commands of the devices on a list that can be accepted.  Loading a board succeeds
exactly with such a list, and the board then has a row for each of its entries.
-/

namespace DevicePanel

namespace Hub

theorem Fault.toCommandFault_ne_superseded (fault : Fault) (id command : String) :
    fault.toCommandFault ≠ .superseded id command := by
  unfold toCommandFault
  cases fault.cause <;> simp

namespace Client

variable {client : Client} {network : Network}

/-- The hub lists these entries with success, and no two of them name the same device. -/
def Lists (client : Client) (network : Network) (entries : List Entry) : Prop :=
  client.base.isWeb ∧ (entries.map fun entry => entry.id.toText).Nodup ∧
    ∃ document, (network client.listRequest).Brings document ∧ Entry.ListedIn document entries

/-- The hub lists the device, and the command is among those of the device. -/
def Offers (client : Client) (network : Network) (device command : String) : Prop :=
  ∃ entries, client.Lists network entries ∧
    ∃ entry ∈ entries, entry.id.toText = device ∧ command ∈ entry.commands

theorem lists_iff {entries : List Entry} : client.Lists network entries ↔
    (client.list network).result = .ok entries ∧
      (entries.map fun entry => entry.id.toText).Nodup := by
  rw [list_eq_ok_iff, Lists]
  tauto

theorem Lists.unique {entries others : List Entry} (lists : client.Lists network entries)
    (also : client.Lists network others) : entries = others :=
  Except.ok.inj ((lists_iff.mp lists).1.symm.trans (lists_iff.mp also).1)

theorem load_eq_ok_iff_lists {run : Run} {listing : List Device} :
    (run.load (client.devices network)).2 = .ok listing ↔
      ∃ entries, client.Lists network entries ∧
        Listing.sorted (entries.map Entry.toDevice) = listing := by
  rw [Run.load_eq_ok_iff]
  simp only [lists_iff, and_assoc]

theorem mem_sorted_iff {entries : List Entry} {device : Device} :
    device ∈ Listing.sorted (entries.map Entry.toDevice) ↔
      ∃ entry ∈ entries, entry.toDevice = device := by
  rw [(Listing.sorted_perm _).mem_iff, List.mem_map]

theorem offers_iff (run : Run) {device command : String} :
    client.Offers network device command ↔
      ∃ devices, (run.load (client.devices network)).2 = .ok devices ∧
        ∃ shown ∈ devices, shown.id = device ∧ command ∈ shown.commands := by
  simp only [load_eq_ok_iff_lists, Offers]
  constructor
  · rintro ⟨entries, lists, entry, listed, rfl, offered⟩
    exact ⟨_, ⟨entries, lists, rfl⟩, entry.toDevice, mem_sorted_iff.mpr ⟨entry, listed, rfl⟩, rfl,
      offered⟩
  · rintro ⟨_, ⟨entries, lists, rfl⟩, shown, sorted, rfl, offered⟩
    obtain ⟨entry, listed, rfl⟩ := mem_sorted_iff.mp sorted
    exact ⟨entries, lists, entry, listed, rfl, offered⟩

section

variable {entries : List Entry} (lists : client.Lists network entries) (run : Run)

include lists

theorem Lists.board_load : (run.load (client.devices network)).1.desk.board =
    .ofDevices (Listing.sorted (entries.map Entry.toDevice)) :=
  Run.board_load_of_ok (load_eq_ok_iff_lists.mpr ⟨entries, lists, rfl⟩)

theorem Lists.exists_entry_of_deviceRow? {place : Nat} {row : Board.DeviceRow}
    (stands : (run.load (client.devices network)).1.desk.board.deviceRow? place = some row) :
    ∃ entry ∈ entries, row = .ofEntry entry := by
  rw [lists.board_load] at stands
  obtain ⟨device, sorted, rfl⟩ := Board.exists_of_deviceRow?_ofDevices stands
  obtain ⟨entry, listed, rfl⟩ := mem_sorted_iff.mp sorted
  exact ⟨entry, listed, rfl⟩

theorem Lists.exists_deviceRow?_of_mem {entry : Entry} (listed : entry ∈ entries) :
    ∃ place, (run.load (client.devices network)).1.desk.board.deviceRow? place =
      some (.ofEntry entry) := by
  rw [lists.board_load]
  exact Board.exists_deviceRow?_of_mem (mem_sorted_iff.mpr ⟨entry, listed, rfl⟩)

end

/-- No hub answers that a command was replaced. -/
theorem result_respondAfter_ne_superseded (delay limit : Nat) (ticket : Ticket)
    (id command : String) :
    ((client.respondAfter network delay ticket).outcome ticket limit).result ≠
      .error (.superseded id command) := by
  cases told : (client.commandAfter network delay ticket.device ticket.command).result with
  | ok answer =>
      by_cases inTime : delay ≤ limit <;>
        simp [Response.outcome, respondAfter, told, inTime]
  | error fault =>
      have notSuperseded := fault.toCommandFault_ne_superseded id command
      by_cases inTime : client.faultDelay delay fault ≤ limit <;>
        simp [Response.outcome, respondAfter, told, inTime, notSuperseded]

end Client

end Hub

theorem Run.distinct_of_load {run : Run} {source : Except ListingFault (List Device)}
    {devices : List Device} (loaded : (run.load source).2 = .ok devices) :
    (devices.map Device.id).Nodup := by
  obtain ⟨listed, -, distinct, rfl⟩ := Listing.ofSource_eq_ok_iff.mp loaded
  exact ((Listing.sorted_perm listed).map Device.id).nodup_iff.mpr distinct

end DevicePanel
