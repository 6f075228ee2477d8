import DevicePanel.Proofs.Board.Index
import DevicePanel.Proofs.Board.Outline
import Mathlib.Data.List.Sort

/-!
# The places of the devices

The places of the devices' rows are listed in their order, each once.  They are told by the outline
of the board alone.
-/

namespace DevicePanel.Board

theorem mem_placesFrom_iff {next place : Nat} {rows : List Row} :
    place ∈ placesFrom next rows ↔ ∃ k row, place = next + k ∧ rows[k]? = some (.device row) := by
  induction rows generalizing next with
  | nil => simp [placesFrom]
  | cons row rows ih =>
      have later : (∃ k other, place = next + 1 + k ∧ rows[k]? = some (.device other)) ↔
          ∃ k other, place = next + (k + 1) ∧ (row :: rows)[k + 1]? = some (.device other) := by
        simp only [List.getElem?_cons_succ, Nat.add_assoc, Nat.add_comm 1]
      cases row with
      | heading typeName =>
          rw [placesFrom, ih, later]
          constructor
          · rintro ⟨k, other, same, found⟩
            exact ⟨k + 1, other, same, found⟩
          · rintro ⟨_ | k, other, same, found⟩
            · simp at found
            · exact ⟨k, other, same, found⟩
      | device row =>
          rw [placesFrom, List.mem_cons, ih, later]
          constructor
          · rintro (rfl | ⟨k, other, same, found⟩)
            · exact ⟨0, row, rfl, rfl⟩
            · exact ⟨k + 1, other, same, found⟩
          · rintro ⟨_ | k, other, same, found⟩
            · exact Or.inl same
            · exact Or.inr ⟨k, other, same, found⟩

theorem mem_devicePlaces_iff {board : Board} {place : Nat} :
    place ∈ board.devicePlaces ↔ ∃ row, board.deviceRow? place = some row := by
  simp only [devicePlaces, mem_placesFrom_iff, deviceRow?_eq_some_iff, Nat.zero_add]
  constructor
  · rintro ⟨_, row, rfl, found⟩
    exact ⟨row, found⟩
  · rintro ⟨row, found⟩
    exact ⟨place, row, rfl, found⟩

theorem pairwise_placesFrom (next : Nat) (rows : List Row) :
    (placesFrom next rows).Pairwise (· < ·) := by
  induction rows generalizing next with
  | nil => exact .nil
  | cons row rows ih =>
      cases row with
      | heading typeName => exact ih (next + 1)
      | device row =>
          refine List.pairwise_cons.mpr ⟨fun place member => ?_, ih (next + 1)⟩
          obtain ⟨k, _, rfl, -⟩ := mem_placesFrom_iff.mp member
          omega

theorem sortedLT_devicePlaces (board : Board) : board.devicePlaces.SortedLT :=
  (pairwise_placesFrom 0 board.rows).sortedLT

theorem placesFrom_map_outline (next : Nat) (rows : List Row) :
    placesFrom next (rows.map Row.outline) = placesFrom next rows := by
  induction rows generalizing next with
  | nil => rfl
  | cons row rows ih => cases row <;> simp [Row.outline, placesFrom, ih]

variable {board other : Board}

theorem devicePlaces_of_outline (same : board.outline = other.outline) :
    board.devicePlaces = other.devicePlaces := by
  rw [devicePlaces, ← placesFrom_map_outline, ← outline, same, outline, placesFrom_map_outline,
    devicePlaces]

/-- The buttons of a device's row are those of the outline. -/
theorem buttons_of_outline (same : board.outline = other.outline) (place : Nat) :
    (board.deviceRow? place).map DeviceRow.buttons =
      (other.deviceRow? place).map DeviceRow.buttons := by
  have told (board : Board) : (board.deviceRow? place).map DeviceRow.buttons =
      ((board.outline[place]?).bind Row.device?).map DeviceRow.buttons := by
    rw [deviceRow?, row?, outline, List.getElem?_map]
    rcases board.rows[place]? with _ | (typeName | row) <;> rfl
  rw [told, told, same]

/-! ## Neighbours -/

section

variable {places : List Nat} {n : Nat}

/-- Between neighbours of an ascending list there is none. -/
theorem not_mem_between (sorted : places.SortedLT) {between : Nat} {inside : n + 1 < places.length}
    (after : places[n] < between) (before : between < places[n + 1]) : between ∉ places := by
  intro member
  obtain ⟨k, within, rfl⟩ := List.getElem_of_mem member
  rw [sorted.getElem_lt_getElem_iff] at after before
  omega

theorem le_getElem_of_last (sorted : places.SortedLT) {inside : n < places.length}
    (last : n + 1 = places.length) {other : Nat} (member : other ∈ places) :
    other ≤ places[n] := by
  obtain ⟨k, within, rfl⟩ := List.getElem_of_mem member
  rw [sorted.getElem_le_getElem_iff]
  omega

end

end DevicePanel.Board
