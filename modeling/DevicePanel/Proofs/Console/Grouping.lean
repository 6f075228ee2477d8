import DevicePanel.Console.Report
import DevicePanel.Proofs.Board.Filling

/-!
# The groups of a listing

A listing for people follows the rows of the board: at each heading the table that has begun ends,
and the last one ends with the rows.  As no heading of a board stands without devices below it, the
listing is made of a heading and a table for each run of devices of one type, and every device
stands in the table of its run.
-/

namespace DevicePanel.Console

open Board (Row DeviceRow sameType runRows typeName_of_isChain rows_ofDevices)

/-- Devices below one heading. -/
structure Group where
  typeName : String
  members : List Device
deriving Repr, DecidableEq

namespace Group

/-- The rows of a group on a board. -/
def rows (group : Group) : List Row :=
  .heading group.typeName :: group.members.map fun device => .device (.ofDevice device)

/-- The parts of a listing that show a group. -/
def parts (group : Group) : List Part :=
  [.heading group.typeName, .table (group.members.map deviceCells)]

end Group

/-- The groups hold the devices in their order.  No group is without a device, all devices of a
group are of its type, and neighbours are of different types. -/
structure FallInto (devices : List Device) (groups : List Group) : Prop where
  flatMap_members : groups.flatMap Group.members = devices
  nonempty : ∀ group ∈ groups, group.members ≠ []
  alike : ∀ group ∈ groups, ∀ device ∈ group.members, device.typeName = group.typeName
  differ : groups.IsChain fun group next => group.typeName ≠ next.typeName

/-! ## From rows to parts -/

/-- A row of the board has the cells of its device. -/
theorem rowCells_ofDevice (device : Device) : rowCells (.ofDevice device) = deviceCells device := by
  simp [rowCells, deviceCells, DeviceRow.ofDevice, Function.comp_def]

/-- The table that has begun, unless it is empty. -/
def begun (waiting : List (List String)) : List Part :=
  if waiting.isEmpty then [] else [.table waiting]

theorem partsAfter_heading (waiting : List (List String)) (typeName : String) (rows : List Row) :
    partsAfter waiting (.heading typeName :: rows) =
      begun waiting ++ .heading typeName :: partsAfter [] rows := by
  rw [partsAfter, begun]
  split <;> rfl

theorem partsAfter_devices (waiting : List (List String)) (devices : List Device)
    (rows : List Row) :
    partsAfter waiting ((devices.map fun device => .device (.ofDevice device)) ++ rows) =
      partsAfter (waiting ++ devices.map deviceCells) rows := by
  induction devices generalizing waiting with
  | nil => simp
  | cons device devices ih =>
      rw [List.map_cons, List.cons_append, partsAfter, ih, rowCells_ofDevice, List.map_cons,
        List.append_assoc, List.singleton_append]

/-- The table that has begun ends where the groups begin, and each group ends before the next. -/
theorem partsAfter_groups {groups : List Group} (nonempty : ∀ group ∈ groups, group.members ≠ [])
    (waiting : List (List String)) :
    partsAfter waiting (groups.flatMap Group.rows) =
      begun waiting ++ groups.flatMap Group.parts := by
  induction groups generalizing waiting with
  | nil =>
      rw [List.flatMap_nil, List.flatMap_nil, List.append_nil]
      rfl
  | cons group groups ih =>
      obtain ⟨some, others⟩ := List.forall_mem_cons.mp nonempty
      have table : begun (group.members.map deviceCells) =
          [.table (group.members.map deviceCells)] := by
        rw [begun, if_neg (by simpa using some)]
      rw [List.flatMap_cons, Group.rows, List.cons_append, partsAfter_heading, partsAfter_devices,
        List.nil_append, ih others, table, List.flatMap_cons]
      rfl

/-! ## The groups of devices -/

def groupsOf (devices : List Device) : List Group :=
  (devices.splitBy sameType).map fun run => ⟨(run.head?.map Device.typeName).getD "", run⟩

theorem typeName_of_mem_run {devices run : List Device} (isRun : run ∈ devices.splitBy sameType)
    {device : Device} (member : device ∈ run) :
    device.typeName = (run.head?.map Device.typeName).getD "" := by
  cases run with
  | nil => cases member
  | cons first run =>
      exact typeName_of_isChain (List.isChain_of_mem_splitBy isRun) device member

theorem fallInto_groupsOf (devices : List Device) : FallInto devices (groupsOf devices) := by
  refine ⟨?_, ?_, ?_, ?_⟩
  · rw [groupsOf, List.flatMap_map, List.flatMap_id', List.flatten_splitBy]
  · rintro group member
    obtain ⟨run, isRun, rfl⟩ := List.mem_map.mp member
    exact List.ne_nil_of_mem_splitBy isRun
  · rintro group member device inside
    obtain ⟨run, isRun, rfl⟩ := List.mem_map.mp member
    exact typeName_of_mem_run isRun inside
  · rw [groupsOf, List.isChain_map]
    refine (List.isChain_getLast_head_splitBy sameType devices).imp_of_mem_imp ?_
    rintro run next isRun isNext ⟨nonempty, nonemptyNext, differs⟩ same
    dsimp only at same
    rw [sameType, beq_eq_false_iff_ne] at differs
    rw [← typeName_of_mem_run isRun (List.getLast_mem nonempty),
      ← typeName_of_mem_run isNext (List.head_mem nonemptyNext)] at same
    exact differs same

theorem rows_ofDevices_eq_groups (devices : List Device) :
    (Board.ofDevices devices).rows = (groupsOf devices).flatMap Group.rows := by
  rw [rows_ofDevices, groupsOf, List.flatMap_map]
  refine List.flatMap_congr fun run isRun => ?_
  -- A run has a first device, whose type is the heading on both sides.
  cases run with
  | nil => exact absurd rfl (List.ne_nil_of_mem_splitBy isRun)
  | cons device run => rfl

/-- The listing for people shows a heading and a table in turn.  Each heading is the type of all
devices of the table below it, and is not the heading before.  No table is empty, and the rows of
all tables are the devices in their order, with the identifier, the name, the state and the commands
of each, as in the row that a single device is given. -/
theorem grouped_listing_shows_each_device_once (devices : List Device) (colour : Bool) :
    ∃ groups, FallInto devices groups ∧
      partsOf devices = groups.flatMap (fun group =>
        [.heading group.typeName, .table (group.members.map fun device =>
          [device.id, device.name, device.state, ", ".intercalate device.commands])]) ∧
      listing .table devices colour = "\n".intercalate (groups.flatMap fun group =>
        [heading group.typeName colour, Text.table columns (group.members.map deviceCells)]) := by
  have parts : partsOf devices = (groupsOf devices).flatMap Group.parts := by
    rw [partsOf, rows_ofDevices_eq_groups, partsAfter_groups (fallInto_groupsOf devices).nonempty]
    rfl
  refine ⟨groupsOf devices, fallInto_groupsOf devices, parts, ?_⟩
  have written : listing .table devices colour =
      "\n".intercalate ((partsOf devices).map (Part.write colour)) := rfl
  rw [written, parts, List.map_flatMap]
  rfl

end DevicePanel.Console
