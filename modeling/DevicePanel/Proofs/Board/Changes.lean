import DevicePanel.Proofs.Board.Index
import Mathlib.Data.Finset.Card

/-!
# Boards through all their changes

A board is filled with any list of devices, also one that repeats identifiers, it is emptied, and
states are written on it, in any order.  Its places and the number of its rows are at every moment
those of a board just filled with the devices that it shows, so the places agree with the rows.
-/

namespace DevicePanel

namespace Board

/-- A change of the board. -/
inductive Change where
  | fill (devices : List Device)
  | clear
  /-- Write a device's new state; on a board without the device nothing is written. -/
  | patch (id state : String)

/-- The devices that the board shows after a change. -/
def Change.devices (shown : List Device) : Change → List Device
  | .fill devices => devices
  | .clear => []
  | .patch _ _ => shown

/-- The devices that a board shows after some changes, which was empty before. -/
def shownAfter (changes : List Change) : List Device := changes.foldl Change.devices []

def make (board : Board) : Change → Board
  | .fill devices => ofDevices devices
  | .clear => empty
  | .patch id state => ((board.patch? id state).map Prod.snd).getD board

def after (board : Board) (changes : List Change) : Board := changes.foldl make board

/-- The board has the places and as many rows as one just filled with the devices. -/
structure Shows (board : Board) (devices : List Device) : Prop where
  indexed : board.Indexed
  places : board.places = (ofDevices devices).places
  length : board.rows.length = (ofDevices devices).rows.length

theorem shows_ofDevices (devices : List Device) : (ofDevices devices).Shows devices :=
  ⟨indexed_ofDevices devices, rfl, rfl⟩

theorem shows_empty : empty.Shows [] := shows_ofDevices []

namespace Shows

variable {board : Board} {devices : List Device}

theorem make (shows : board.Shows devices) (change : Change) :
    (board.make change).Shows (change.devices devices) := by
  cases change with
  | fill devices => exact shows_ofDevices devices
  | clear => exact shows_empty
  | patch id state =>
      cases known : board.place? id with
      | none =>
          rw [Board.make, patch?_of_place?_eq_none known]
          exact shows
      | some place =>
          obtain ⟨row, found, -, written⟩ := shows.indexed.patch?_of_place? known state
          rw [Board.make, written]
          refine ⟨indexed_set shows.indexed found state, shows.places, ?_⟩
          exact List.length_set.trans shows.length

theorem after (shows : board.Shows devices) (changes : List Change) :
    (board.after changes).Shows (changes.foldl Change.devices devices) := by
  induction changes generalizing board devices with
  | nil => exact shows
  | cons change changes ih => exact ih (shows.make change)

theorem place?_eq_none_iff (shows : board.Shows devices) {id : String} :
    board.place? id = none ↔ id ∉ devices.map Device.id := by
  have rows : (rowsAfter none devices).filterMap Row.device? = devices.map DeviceRow.ofDevice :=
    filterMap_device?_rowsAfter none devices
  have places : board.place? id = (ofDevices devices).place? id := by
    rw [place?, place?, shows.places]
  rw [places, indexed_ofDevices devices id, List.findIdx?_eq_none_iff]
  constructor
  · intro unshown member
    obtain ⟨device, inside, rfl⟩ := List.mem_map.mp member
    have stands : DeviceRow.ofDevice device ∈ (rowsAfter none devices).filterMap Row.device? :=
      rows ▸ List.mem_map_of_mem inside
    obtain ⟨row, standsIn, isDevice⟩ := List.mem_filterMap.mp stands
    have hidden := unshown row standsIn
    cases row with
    | heading typeName => simp [Row.device?] at isDevice
    | device row =>
        obtain rfl := Option.some.inj isDevice
        simp [Row.shows, DeviceRow.ofDevice] at hidden
  · intro absent row stands
    rw [← Bool.not_eq_true]
    intro shown
    obtain ⟨deviceRow, rfl, same⟩ := Row.shows_iff.mp shown
    have inside : deviceRow ∈ devices.map DeviceRow.ofDevice :=
      rows ▸ List.mem_filterMap.mpr ⟨_, stands, rfl⟩
    obtain ⟨device, member, rfl⟩ := List.mem_map.mp inside
    exact absent (same ▸ List.mem_map_of_mem member)

end Shows

/-! ## Counting identifiers -/

theorem mem_keys_iff {places : List (String × Nat)} {id : String} :
    id ∈ places.map Prod.fst ↔ (places.lookup id).isSome = true := by
  induction places with
  | nil => simp
  | cons pair places ih =>
      rw [List.map_cons, List.mem_cons, ih, List.lookup_cons]
      by_cases same : id = pair.1
      · simp [same]
      · simp only [same, false_or, beq_eq_false_iff_ne.mpr same]

/-- No identifier gets two places. -/
theorem nodup_keys_enterPlaces {places : List (String × Nat)}
    (distinct : (places.map Prod.fst).Nodup) (next : Nat) (rows : List Row) :
    ((enterPlaces next places rows).map Prod.fst).Nodup := by
  induction rows generalizing next places with
  | nil => exact distinct
  | cons row rows ih =>
      cases row with
      | heading typeName => exact ih distinct (next + 1)
      | device row =>
          apply ih
          by_cases known : (places.lookup row.id).isSome = true
          · rwa [if_pos known]
          · rw [if_neg known, List.map_append, List.nodup_append]
            refine ⟨distinct, List.nodup_singleton _, ?_⟩
            intro id member other single same
            obtain rfl : other = row.id := List.mem_singleton.mp single
            exact known (mem_keys_iff.mp (same ▸ member))

namespace Shows

variable {board : Board} {devices : List Device}

theorem deviceCount_eq (shows : board.Shows devices) :
    board.deviceCount = (devices.map Device.id).toFinset.card := by
  have distinct : (board.places.map Prod.fst).Nodup := by
    rw [shows.places]
    have none : (([] : List (String × Nat)).map Prod.fst).Nodup := List.nodup_nil
    exact nodup_keys_enterPlaces none 0 _
  have same : (board.places.map Prod.fst).toFinset = (devices.map Device.id).toFinset := by
    ext id
    have absent : board.place? id = none ↔ id ∉ devices.map Device.id :=
      shows.place?_eq_none_iff
    rw [List.mem_toFinset, List.mem_toFinset, mem_keys_iff, Option.isSome_iff_ne_none]
    exact not_iff_comm.mp (absent.symm)
  rw [← same, List.toFinset_card_of_nodup distinct, List.length_map, deviceCount]

theorem rows_eq_nil_iff (shows : board.Shows devices) : board.rows = [] ↔ devices = [] := by
  rw [← List.length_eq_zero_iff, shows.length, List.length_eq_zero_iff]
  cases devices with
  | nil => exact iff_of_true rfl rfl
  | cons device devices => simp [ofDevices, rowsAfter]

end Shows

/-- After any changes the board knows the place of an identifier exactly when this is the place of
a device's row with the identifier and no earlier one, and knows none exactly when no row shows
the identifier.  So what it finds under an identifier is a row of that device, writing a state
always meets such a row and fails only for a device that the board does not show, and the number
of devices is that of their distinct identifiers, zero exactly when there are no rows. -/
theorem index_agrees_with_rows (changes : List Change) :
    let board := empty.after changes
    let ids := (shownAfter changes).map Device.id
    (∀ id place, board.place? id = some place ↔
      (∃ row, board.deviceRow? place = some row ∧ row.id = id) ∧ board.FirstAt place id) ∧
    (∀ id, board.place? id = none ↔
      ∀ place row, board.deviceRow? place = some row → row.id ≠ id) ∧
    (∀ id row, board.find? id = some row → row.id = id) ∧
    (∀ id place state, board.place? id = some place → ∃ row,
      board.deviceRow? place = some row ∧ row.id = id ∧ board.patch? id state =
        some (place, { board with rows := board.rows.set place (.device { row with state }) })) ∧
    (∀ id state, board.patch? id state = none ↔ id ∉ ids) ∧
    board.deviceCount = ids.toFinset.card ∧
    (board.deviceCount = 0 ↔ board.rows = []) := by
  intro board ids
  have shows : board.Shows (shownAfter changes) := shows_empty.after changes
  have indexed := shows.indexed
  refine ⟨fun id place => indexed.place?_eq_some_iff, fun id => indexed.place?_eq_none_iff,
    ?_, ?_, ?_, shows.deviceCount_eq, ?_⟩
  · intro id row found
    obtain ⟨place, known, stands⟩ := Option.bind_eq_some_iff.mp found
    obtain ⟨⟨other, here, same⟩, -⟩ := indexed.place?_eq_some_iff.mp known
    rw [stands] at here
    exact Option.some.inj here ▸ same
  · intro id place state known
    exact indexed.patch?_of_place? known state
  · intro id state
    rw [← shows.place?_eq_none_iff]
    constructor
    · intro unwritten
      by_contra known
      obtain ⟨place, found⟩ := Option.ne_none_iff_exists'.mp known
      obtain ⟨row, -, -, written⟩ := indexed.patch?_of_place? found state
      simp [written] at unwritten
    · exact fun unknown => patch?_of_place?_eq_none unknown state
  · rw [shows.deviceCount_eq, Finset.card_eq_zero, List.toFinset_eq_empty_iff,
      List.map_eq_nil_iff, shows.rows_eq_nil_iff]

end Board

end DevicePanel
