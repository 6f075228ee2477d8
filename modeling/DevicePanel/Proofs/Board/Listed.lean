import DevicePanel.Proofs.Board.Showing

/-!
# The rows of listed devices

A board that was just filled has a row for each device and no other rows of devices.  Where no
identifier is listed twice, each device is found by its identifier, in its own row.
-/

namespace DevicePanel.Board

variable {devices : List Device}

theorem exists_of_deviceRow?_ofDevices {place : Nat} {row : DeviceRow}
    (found : (ofDevices devices).deviceRow? place = some row) :
    ∃ device ∈ devices, row = .ofDevice device := by
  have stands := List.mem_of_getElem? (deviceRow?_eq_some_iff.mp found)
  have member : row ∈ (ofDevices devices).rows.filterMap Row.device? :=
    List.mem_filterMap.mpr ⟨.device row, stands, rfl⟩
  rw [ofDevices, filterMap_device?_rowsAfter] at member
  obtain ⟨device, listed, same⟩ := List.mem_map.mp member
  exact ⟨device, listed, same.symm⟩

theorem exists_deviceRow?_of_mem {device : Device} (listed : device ∈ devices) :
    ∃ place, (ofDevices devices).deviceRow? place = some (.ofDevice device) := by
  have member : DeviceRow.ofDevice device ∈ (ofDevices devices).rows.filterMap Row.device? := by
    rw [ofDevices, filterMap_device?_rowsAfter]
    exact List.mem_map_of_mem listed
  obtain ⟨row, stands, same⟩ := List.mem_filterMap.mp member
  obtain ⟨place, found⟩ := List.getElem?_of_mem stands
  refine ⟨place, ?_⟩
  rw [deviceRow?, row?, found]
  exact same

theorem exists_place_of_mem (distinct : (devices.map Device.id).Nodup) {device : Device}
    (listed : device ∈ devices) :
    ∃ place, (ofDevices devices).place? device.id = some place ∧
      (ofDevices devices).deviceRow? place = some (.ofDevice device) := by
  obtain ⟨place, found⟩ := exists_deviceRow?_of_mem listed
  exact ⟨place, distinct_ofDevices distinct place _ (deviceRow?_eq_some_iff.mp found), found⟩

theorem place?_ofDevices_eq_none_iff {id : String} :
    (ofDevices devices).place? id = none ↔ ∀ device ∈ devices, device.id ≠ id := by
  rw [(indexed_ofDevices devices).place?_eq_none_iff]
  constructor
  · intro unshown device listed
    obtain ⟨place, found⟩ := exists_deviceRow?_of_mem listed
    exact unshown place _ found
  · intro unlisted place row found
    obtain ⟨device, listed, rfl⟩ := exists_of_deviceRow?_ofDevices found
    exact unlisted device listed

end DevicePanel.Board
