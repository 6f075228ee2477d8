import DevicePanel.Proofs.Board.Changes
import DevicePanel.Proofs.Board.Groups
import Mathlib.Data.List.SplitBy

/-!
# The rows of a filled board

Filling a board forgets all that was on it.  The devices are cut into runs of one type, as long as
they can be, and each run stands under one heading; so a heading stands directly above a device
exactly where a run begins, and nothing else is on the board.
-/

namespace DevicePanel.Board

/-! ## Runs of one type -/

def sameType (a b : Device) : Bool := a.typeName == b.typeName

/-- The rows of a run, under a heading with the type of its first device. -/
def runRows (run : List Device) : List Row :=
  (run.head?.map fun device => Row.heading device.typeName).toList ++
    run.map fun device => .device (.ofDevice device)

theorem length_runRows {run : List Device} (nonempty : run ≠ []) :
    (runRows run).length = run.length + 1 := by
  cases run with
  | nil => exact absurd rfl nonempty
  | cons device run => simp [runRows]

theorem typeName_of_isChain {device : Device} {run : List Device}
    (chain : (device :: run).IsChain fun a b => sameType a b = true) :
    ∀ other ∈ device :: run, other.typeName = device.typeName := by
  induction run generalizing device with
  | nil => simp
  | cons next run ih =>
      obtain ⟨same, rest⟩ := List.isChain_cons_cons.mp chain
      have equal : device.typeName = next.typeName := eq_of_beq same
      intro other member
      rcases List.mem_cons.mp member with rfl | later
      · rfl
      · rw [ih rest other later, equal]

/-- Runs of one type each, of which neighbours differ, stand under one heading each. -/
theorem rowsAfter_flatten {runs : List (List Device)} {previous : Option String}
    (nonempty : ∀ run ∈ runs, run ≠ [])
    (one : ∀ run ∈ runs, run.IsChain fun a b => sameType a b = true)
    (differ : runs.IsChain fun a b => ∃ first second,
      sameType (a.getLast first) (b.head second) = false)
    (begins : ∀ run ∈ runs.head?, ∀ device ∈ run.head?, previous ≠ some device.typeName) :
    rowsAfter previous runs.flatten = runs.flatMap runRows := by
  induction runs generalizing previous with
  | nil => rfl
  | cons run runs ih =>
      obtain ⟨some, others⟩ := List.forall_mem_cons.mp nonempty
      obtain ⟨next, tail⟩ := List.isChain_cons.mp differ
      obtain ⟨device, run, rfl⟩ := List.exists_cons_of_ne_nil some
      have same := typeName_of_isChain (one _ List.mem_cons_self)
      have later : rowsAfter (lastType previous (device :: run)) runs.flatten =
          runs.flatMap runRows := by
        refine ih others (fun other member => one other (List.mem_cons_of_mem _ member)) tail ?_
        intro second follows other front equal
        obtain ⟨first, nonempty, differs⟩ := next second follows
        rw [lastType, List.getLast?_eq_some_getLast first] at equal
        rw [List.head_of_mem_head? front, sameType, beq_eq_false_iff_ne] at differs
        exact differs (Option.some.inj equal)
      have here : rowsAfter previous (device :: run) = runRows (device :: run) := by
        rw [rowsAfter_of_group (List.cons_ne_nil _ _) (begins _ rfl device rfl) same]
        rfl
      rw [List.flatten_cons, rowsAfter_append, here, later, List.flatMap_cons]

theorem rows_ofDevices (devices : List Device) :
    (ofDevices devices).rows = (devices.splitBy sameType).flatMap runRows := by
  have rows : rowsAfter none (devices.splitBy sameType).flatten =
      (devices.splitBy sameType).flatMap runRows :=
    rowsAfter_flatten (fun _ => List.ne_nil_of_mem_splitBy)
      (fun _ => List.isChain_of_mem_splitBy) (List.isChain_getLast_head_splitBy sameType devices)
      (by simp)
  rwa [List.flatten_splitBy] at rows

/-- There is one heading for each run. -/
theorem size_ofDevices (devices : List Device) :
    (ofDevices devices).size = devices.length + (devices.splitBy sameType).length := by
  have lengths (runs : List (List Device)) (nonempty : ∀ run ∈ runs, run ≠ []) :
      (runs.flatMap runRows).length = runs.flatten.length + runs.length := by
    induction runs with
    | nil => rfl
    | cons run runs ih =>
        obtain ⟨some, others⟩ := List.forall_mem_cons.mp nonempty
        rw [List.flatMap_cons, List.length_append, length_runRows some, ih others,
          List.flatten_cons, List.length_append, List.length_cons]
        omega
  rw [size, rows_ofDevices, lengths _ fun _ => List.ne_nil_of_mem_splitBy,
    List.flatten_splitBy]

/-! ## Places -/

theorem placesFrom_append (next : Nat) (first second : List Row) :
    placesFrom next (first ++ second) =
      placesFrom next first ++ placesFrom (next + first.length) second := by
  induction first generalizing next with
  | nil => rfl
  | cons row first ih =>
      have shift : next + (first.length + 1) = next + 1 + first.length := by omega
      cases row with
      | heading typeName => rw [List.cons_append, placesFrom, ih, List.length_cons, shift]; rfl
      | device row => rw [List.cons_append, placesFrom, ih, List.length_cons, shift]; rfl

theorem length_placesFrom (next : Nat) (rows : List Row) :
    (placesFrom next rows).length = (rows.filterMap Row.device?).length := by
  induction rows generalizing next with
  | nil => rfl
  | cons row rows ih => cases row <;> simp [placesFrom, List.filterMap_cons, Row.device?, ih]

/-- The rows never end in a heading. -/
theorem getLast?_rowsAfter (previous : Option String) (devices : List Device) :
    (rowsAfter previous devices).getLast? =
      devices.getLast?.map fun device => .device (.ofDevice device) := by
  induction devices generalizing previous with
  | nil => rfl
  | cons device devices ih =>
      have rest := ih (some device.typeName)
      rw [rowsAfter]
      split
      · rw [List.getLast?_cons, rest, List.getLast?_cons]
        cases devices.getLast? <;> rfl
      · rw [List.getLast?_cons, List.getLast?_cons, rest, List.getLast?_cons]
        cases devices.getLast? <;> rfl

/-- A device's row stands below each heading. -/
theorem exists_device_below {previous : Option String} {devices : List Device} {place : Nat}
    {typeName : String} (found : (rowsAfter previous devices)[place]? = some (.heading typeName)) :
    ∃ row, (rowsAfter previous devices)[place + 1]? = some (.device row) := by
  induction devices generalizing previous place with
  | nil => simp [rowsAfter] at found
  | cons device devices ih =>
      rw [rowsAfter] at found ⊢
      split at found
      · rename_i continues
        rw [if_pos continues]
        cases place with
        | zero => simp at found
        | succ place => simpa using ih (by simpa using found)
      · rename_i begins
        rw [if_neg begins]
        rcases place with _ | _ | place
        · exact ⟨_, rfl⟩
        · simp at found
        · simpa using ih (by simpa using found)

/-- A heading stands directly above the place. -/
def HeadingAbove (board : Board) (place : Nat) (typeName : String) : Prop :=
  ∃ above, place = above + 1 ∧ board.row? above = some (.heading typeName)

/-- A device has the place that its number says, and a heading above it exactly where the device
before it, if any, is of another type. -/
theorem place_of_split (before : List Device) (device : Device) (after : List Device) :
    let board := ofDevices (before ++ device :: after)
    ∃ place, board.devicePlaces[before.length]? = some place ∧
      board.deviceRow? place = some (.ofDevice device) ∧
      ∀ typeName, board.HeadingAbove place typeName ↔
        typeName = device.typeName ∧ lastType none before ≠ some device.typeName := by
  intro board
  have rows : board.rows = rowsAfter none before ++
      rowsAfter (lastType none before) (device :: after) := rowsAfter_append none before _
  have number : (placesFrom 0 (rowsAfter none before)).length = before.length := by
    rw [length_placesFrom, filterMap_device?_rowsAfter, List.length_map]
  have places : board.devicePlaces[before.length]? = (placesFrom (rowsAfter none before).length
      (rowsAfter (lastType none before) (device :: after)))[0]? := by
    rw [devicePlaces, rows, placesFrom_append, List.getElem?_append_right (by omega), number,
      Nat.sub_self, Nat.zero_add]
  rw [rowsAfter] at rows places
  by_cases continues : lastType none before = some device.typeName
  · rw [if_pos continues] at rows places
    refine ⟨_, places, ?_, ?_⟩
    · rw [deviceRow?_eq_some_iff, rows]
      simp
    · intro typeName
      refine iff_of_false ?_ fun differs => differs.2 continues
      rintro ⟨above, place, heading⟩
      -- What stands above is the last row before, which is a device's.
      have last := getLast?_rowsAfter none before
      rw [List.getLast?_eq_getElem?, place, Nat.add_sub_cancel] at last
      rw [row?, rows, List.getElem?_append_left (by omega), last] at heading
      cases found : before.getLast? <;> simp [found] at heading
  · rw [if_neg continues] at rows places
    refine ⟨_, places, ?_, ?_⟩
    · rw [deviceRow?_eq_some_iff, rows]
      simp
    · intro typeName
      have heading : board.row? (rowsAfter none before).length =
          some (.heading device.typeName) := by
        rw [row?, rows]
        simp
      constructor
      · rintro ⟨above, place, found⟩
        obtain rfl : (rowsAfter none before).length = above := by omega
        rw [heading] at found
        exact ⟨(Row.heading.inj (Option.some.inj found)).symm, continues⟩
      · rintro ⟨rfl, -⟩
        exact ⟨_, rfl, heading⟩

theorem after_append (board : Board) (first second : List Change) :
    board.after (first ++ second) = (board.after first).after second :=
  List.foldl_append

theorem lastType_take_succ (devices : List Device) (k : Nat) :
    lastType none (devices.take (k + 1)) =
      (devices[k]?.or devices.getLast?).map Device.typeName := by
  rw [lastType, List.getLast?_take, if_neg k.succ_ne_zero, Nat.add_sub_cancel, Option.or_none]

/-- Whatever was on the board, after it is filled there is one row for each device in the order of
the list, with a button for each command.  Directly above the row of a device stands a heading
exactly if it is the first or the one before it is of another type, and the heading tells its type.
Below each heading stands a device's row, so there are as many headings as runs of one type.
Filling the board with the same devices once more, whatever happened in between, gives the same
board. -/
theorem filling_shows_grouped_devices (changes : List Change) (devices : List Device) :
    let board := empty.after (changes ++ [.fill devices])
    board.rows.filterMap Row.device? = devices.map (fun device =>
      { id := device.id, leading := "", name := device.name, state := device.state,
        buttons := device.commands.map fun command => ⟨device.id, command⟩ }) ∧
    (∀ k device, devices[k]? = some device → ∃ place,
      board.devicePlaces[k]? = some place ∧ board.deviceRow? place = some (.ofDevice device) ∧
      ∀ typeName, board.HeadingAbove place typeName ↔ typeName = device.typeName ∧
        (k = 0 ∨ ∃ before, devices[k - 1]? = some before ∧
          before.typeName ≠ device.typeName)) ∧
    (∀ place typeName, board.row? place = some (.heading typeName) →
      ∃ row, board.deviceRow? (place + 1) = some row) ∧
    board.size =
      devices.length + (devices.splitBy fun a b => a.typeName == b.typeName).length ∧
    ∀ more, board.after (more ++ [.fill devices]) = board := by
  intro board
  have filled : board = ofDevices devices := after_append _ changes _
  refine ⟨?_, ?_, ?_, ?_, ?_⟩
  · rw [filled]
    exact filterMap_device?_rowsAfter none devices
  · intro k device found
    obtain ⟨inside, here⟩ := List.getElem?_eq_some_iff.mp found
    have split : devices = devices.take k ++ device :: devices.drop (k + 1) := by
      rw [← here, List.getElem_cons_drop, List.take_append_drop]
    obtain ⟨place, number, row, above⟩ :=
      place_of_split (devices.take k) device (devices.drop (k + 1))
    rw [← split, ← filled, List.length_take_of_le inside.le] at number
    rw [← split, ← filled] at row above
    refine ⟨place, number, row, fun typeName => (above typeName).trans ?_⟩
    refine and_congr_right fun _ => ?_
    cases k with
    | zero => exact iff_of_true (by simp [lastType]) (Or.inl rfl)
    | succ k =>
        have before : devices[k]? = some devices[k] := List.getElem?_eq_getElem (by omega)
        rw [lastType_take_succ, before]
        simp [before]
  · intro place typeName heading
    rw [filled] at heading ⊢
    obtain ⟨row, below⟩ := exists_device_below heading
    exact ⟨row, deviceRow?_eq_some_iff.mpr below⟩
  · rw [filled]
    exact size_ofDevices devices
  · intro more
    rw [filled]
    exact after_append _ more _

theorem filling_again_shows_lamps_and_fan :
    let lamp : Device := ⟨"1", "Lamp", "Light", "off", ["on"]⟩
    let bulb : Device := ⟨"2", "Bulb", "Light", "on", []⟩
    let fan : Device := ⟨"3", "Fan", "light", "still", []⟩
    let board := empty.after ([.fill [fan, fan], .patch "3" "spins"] ++ [.fill [lamp, bulb, fan]])
    board.size = 5 ∧
    (∃ place, board.devicePlaces[1]? = some place ∧
      board.deviceRow? place = some (.ofDevice bulb) ∧
      ¬ ∃ typeName, board.HeadingAbove place typeName) ∧
    (∃ place, board.devicePlaces[2]? = some place ∧
      board.deviceRow? place = some (.ofDevice fan) ∧ board.HeadingAbove place "light") ∧
    board.after ([.patch "1" "on"] ++ [.fill [lamp, bulb, fan]]) = board := by
  intro lamp bulb fan board
  obtain ⟨-, rows, -, size, again⟩ := filling_shows_grouped_devices
    [.fill [fan, fan], .patch "3" "spins"] [lamp, bulb, fan]
  refine ⟨size, ?_, ?_, again _⟩
  · obtain ⟨place, number, row, above⟩ := rows 1 bulb rfl
    refine ⟨place, number, row, ?_⟩
    rintro ⟨typeName, heading⟩
    obtain ⟨-, first | ⟨before, found, differs⟩⟩ := (above typeName).mp heading
    · exact absurd first (by decide)
    · obtain rfl : lamp = before := Option.some.inj found
      exact differs rfl
  · obtain ⟨place, number, row, above⟩ := rows 2 fan rfl
    exact ⟨place, number, row, (above "light").mpr ⟨rfl, Or.inr ⟨bulb, rfl, by decide⟩⟩⟩

end DevicePanel.Board
