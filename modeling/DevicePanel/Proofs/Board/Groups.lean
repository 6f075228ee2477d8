import DevicePanel.Proofs.Board.Index
import DevicePanel.Proofs.Listing.Order

/-!
# The groups of the board

The headings of the board come from neighbours alone: one stands wherever the type of a device
differs from that of the device before.  In an ordered listing equal types, whatever the case of
their letters, stand side by side, so where types differ in more than case, each of them has one
heading with all its devices below.
-/

namespace DevicePanel

namespace Board

/-- The type of the last device, where `previous` is that of the device before. -/
def lastType (previous : Option String) (devices : List Device) : Option String :=
  (devices.getLast?.map Device.typeName).or previous

theorem rowsAfter_append (previous : Option String) (first second : List Device) :
    rowsAfter previous (first ++ second) =
      rowsAfter previous first ++ rowsAfter (lastType previous first) second := by
  induction first generalizing previous with
  | nil => rfl
  | cons device first ih =>
      have last : lastType (some device.typeName) first = lastType previous (device :: first) := by
        rw [lastType, lastType, List.getLast?_cons]
        cases first.getLast? <;> rfl
      rw [List.cons_append, rowsAfter, rowsAfter, ih, last]
      split <;> rfl

/-- Devices of one type follow a device of the type without a heading. -/
theorem rowsAfter_of_same {typeName : String} {devices : List Device}
    (same : ∀ device ∈ devices, device.typeName = typeName) :
    rowsAfter (some typeName) devices = devices.map fun device => .device (.ofDevice device) := by
  induction devices with
  | nil => rfl
  | cons device devices ih =>
      obtain ⟨first, others⟩ := List.forall_mem_cons.mp same
      rw [rowsAfter, if_pos (by rw [first]), first, ih others, List.map_cons]

/-- Devices of one type stand under a heading where the device before is of another type. -/
theorem rowsAfter_of_group {previous : Option String} {typeName : String} {devices : List Device}
    (nonempty : devices ≠ []) (differs : previous ≠ some typeName)
    (same : ∀ device ∈ devices, device.typeName = typeName) :
    rowsAfter previous devices =
      .heading typeName :: devices.map fun device => .device (.ofDevice device) := by
  cases devices with
  | nil => exact absurd rfl nonempty
  | cons device devices =>
      obtain ⟨first, others⟩ := List.forall_mem_cons.mp same
      rw [rowsAfter, if_neg (by rwa [first]), first, rowsAfter_of_same others, List.map_cons]

theorem heading_mem_rowsAfter {previous : Option String} {typeName : String}
    {devices : List Device} (member : Row.heading typeName ∈ rowsAfter previous devices) :
    ∃ device ∈ devices, device.typeName = typeName := by
  induction devices generalizing previous with
  | nil => simp [rowsAfter] at member
  | cons device devices ih =>
      have later (inside : Row.heading typeName ∈ rowsAfter (some device.typeName) devices) :
          ∃ other ∈ device :: devices, other.typeName = typeName := by
        obtain ⟨other, stands, same⟩ := ih inside
        exact ⟨other, List.mem_cons_of_mem _ stands, same⟩
      rw [rowsAfter] at member
      split at member
      · exact later (by simpa using member)
      · rcases List.mem_cons.mp member with here | inside
        · exact ⟨device, List.mem_cons_self, (Row.heading.inj here).symm⟩
        · exact later (by simpa using inside)

/-- A device of another type begins with a heading. -/
theorem rowsAfter_of_differs {previous : Option String} {devices : List Device}
    (differs : ∀ device ∈ devices, previous ≠ some device.typeName) :
    rowsAfter previous devices = [] ∨
      ∃ typeName rows, rowsAfter previous devices = .heading typeName :: rows := by
  cases devices with
  | nil => exact Or.inl rfl
  | cons device devices =>
      right
      rw [rowsAfter, if_neg (differs device List.mem_cons_self)]
      exact ⟨_, _, rfl⟩

theorem lastType_mem {devices : List Device} {typeName : String}
    (last : lastType none devices = some typeName) :
    ∃ device ∈ devices, device.typeName = typeName := by
  rw [lastType, Option.or_none, Option.map_eq_some_iff] at last
  obtain ⟨device, found, same⟩ := last
  exact ⟨device, List.mem_of_getLast? found, same⟩

/-- The devices of one type, standing together, have one heading above them and no other rows up to
the next heading. -/
theorem rows_of_group {typeName : String} {before group after : List Device}
    (nonempty : group ≠ []) (same : ∀ device ∈ group, device.typeName = typeName)
    (others : ∀ device ∈ before ++ after, device.typeName ≠ typeName) :
    ∃ front back : List Row,
      (ofDevices (before ++ group ++ after)).rows =
        front ++ .heading typeName :: group.map (fun device => .device (.ofDevice device)) ++ back ∧
      Row.heading typeName ∉ front ∧ Row.heading typeName ∉ back ∧
      (back = [] ∨ ∃ next rows, back = .heading next :: rows) := by
  have differs : lastType none before ≠ some typeName := by
    intro last
    obtain ⟨device, member, equal⟩ := lastType_mem last
    exact others device (List.mem_append_left _ member) equal
  have last : lastType none (before ++ group) = some typeName := by
    obtain ⟨device, found⟩ := Option.ne_none_iff_exists'.mp
      (mt List.getLast?_eq_none_iff.mp nonempty)
    rw [lastType, List.getLast?_append, found]
    simp [same device (List.mem_of_getLast? found)]
  have hidden {devices : List Device} {previous : Option String}
      (inside : ∀ device ∈ devices, device ∈ before ++ after) :
      Row.heading typeName ∉ rowsAfter previous devices := by
    intro member
    obtain ⟨device, stands, equal⟩ := heading_mem_rowsAfter member
    exact others device (inside device stands) equal
  refine ⟨rowsAfter none before, rowsAfter (some typeName) after, ?_,
    hidden fun _ => List.mem_append_left _, hidden fun _ => List.mem_append_right _, ?_⟩
  · rw [ofDevices, rowsAfter_append, last, rowsAfter_append,
      rowsAfter_of_group nonempty differs same]
  · apply rowsAfter_of_differs
    intro device member equal
    exact others device (List.mem_append_right _ member) (Option.some.inj equal).symm

/-- A listing without a repeated identifier is accepted.  On the board that is filled with it, the
devices whose types agree in small letters have rows that follow one another, headings left out.
If types that agree in small letters agree, every type has one heading; below it stand all its
devices and nothing else up to the next heading, their names in order. -/
theorem listing_groups_by_type (devices : List Device) (distinct : (devices.map Device.id).Nodup) :
    ∃ listing, Listing.ofSource (.ok devices) = .ok listing ∧
      (∀ small : String, ∃ before group after : List Device,
        (before ++ group ++ after).Perm devices ∧
        (ofDevices listing).rows.filterMap Row.device? =
          (before ++ group ++ after).map DeviceRow.ofDevice ∧
        (∀ device ∈ group, Text.lower device.typeName = small) ∧
        ∀ device ∈ before ++ after, Text.lower device.typeName ≠ small) ∧
      ((∀ a ∈ devices, ∀ b ∈ devices,
          Text.lower a.typeName = Text.lower b.typeName → a.typeName = b.typeName) →
        ∀ typeName ∈ devices.map Device.typeName, ∃ (front back : List Row) (group : List Device),
          (ofDevices listing).rows = front ++ .heading typeName ::
            group.map (fun device => .device (.ofDevice device)) ++ back ∧
          Row.heading typeName ∉ front ∧ Row.heading typeName ∉ back ∧
          (back = [] ∨ ∃ next rows, back = .heading next :: rows) ∧
          group.Perm (devices.filter fun device => device.typeName = typeName) ∧
          group.Pairwise fun a b => Text.lower a.name ≤ Text.lower b.name) := by
  have perm := Listing.sorted_perm devices
  refine ⟨Listing.sorted devices, Listing.accept_eq_ok_iff.mpr ⟨distinct, rfl⟩, ?_, ?_⟩
  · intro small
    have parts := Listing.sorted_eq_parts devices small
    refine ⟨_, _, _, parts ▸ perm, ?_, fun device member => (Listing.mem_ofType_iff.mp member).2,
      fun device member => Listing.lower_typeName_ne member⟩
    rw [← parts]
    exact filterMap_device?_rowsAfter none _
  · intro sameCase typeName member
    obtain ⟨first, inside, rfl⟩ := List.mem_map.mp member
    have parts := Listing.sorted_eq_parts devices (Text.lower first.typeName)
    have group : Listing.ofType (Text.lower first.typeName) (Listing.sorted devices) =
        (Listing.sorted devices).filter fun device => device.typeName = first.typeName := by
      apply List.filter_congr
      intro device stands
      have same_iff : Text.lower device.typeName = Text.lower first.typeName ↔
          device.typeName = first.typeName :=
        ⟨sameCase device (perm.subset stands) first inside, fun same => by rw [same]⟩
      simp only [same_iff]
    have same : ∀ device ∈ Listing.ofType (Text.lower first.typeName) (Listing.sorted devices),
        device.typeName = first.typeName := by
      intro device stands
      rw [group] at stands
      exact of_decide_eq_true (List.mem_filter.mp stands).2
    obtain ⟨front, back, rows, frontHidden, backHidden, next⟩ := rows_of_group
      (List.ne_nil_of_mem (Listing.mem_ofType_iff.mpr ⟨perm.symm.subset inside, rfl⟩)) same
      (fun device stands equal => Listing.lower_typeName_ne stands (by rw [equal]))
    rw [← parts] at rows
    exact ⟨front, back, _, rows, frontHidden, backHidden, next, group ▸ perm.filter _,
      Listing.pairwise_ofType_sorted devices _⟩

theorem listing_groups_lamps_and_fans :
    let lamp : Device := ⟨"3", "lamp", "Light", "off", ["on"]⟩
    let fan : Device := ⟨"1", "Fan", "Motor", "still", []⟩
    let bulb : Device := ⟨"2", "Bulb", "Light", "on", []⟩
    let devices := [lamp, fan, bulb]
    (devices.map Device.id).Nodup ∧
    (∀ a ∈ devices, ∀ b ∈ devices,
      Text.lower a.typeName = Text.lower b.typeName → a.typeName = b.typeName) ∧
    "Light" ∈ devices.map Device.typeName ∧
    ∃ listing, Listing.ofSource (.ok devices) = .ok listing ∧
      ∃ (front back : List Row) (group : List Device),
        (ofDevices listing).rows = front ++ .heading "Light" ::
          group.map (fun device => .device (.ofDevice device)) ++ back ∧
        group.Perm [lamp, bulb] ∧
        group.Pairwise fun a b => Text.lower a.name ≤ Text.lower b.name := by
  intro lamp fan bulb devices
  have distinct : (devices.map Device.id).Nodup := by decide
  have sameCase : ∀ a ∈ devices, ∀ b ∈ devices,
      Text.lower a.typeName = Text.lower b.typeName → a.typeName = b.typeName := by decide
  have light : "Light" ∈ devices.map Device.typeName := by decide
  obtain ⟨listing, accepted, -, groups⟩ := listing_groups_by_type devices distinct
  obtain ⟨front, back, group, rows, -, -, -, members, names⟩ := groups sameCase "Light" light
  exact ⟨distinct, sameCase, light, listing, accepted, front, back, group, rows, members, names⟩

end Board

end DevicePanel
