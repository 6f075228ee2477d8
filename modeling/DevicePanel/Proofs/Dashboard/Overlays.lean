import DevicePanel.Dashboard.Overlay

/-!
# Overlays on small terminals

Wherever an area lies on a terminal and however small it is, the places of a notice and of the help
are worked out without leaving the numbers of a terminal, and they lie inside the area.  So an
overlay always has a place, and no cell of it lies beyond the area.
-/

namespace DevicePanel

namespace Terminal

theorem Coordinate.sum?_of_le {a b : Nat} (small : a + b ≤ greatest) : sum? a b = some (a + b) :=
  if_pos small

namespace Area

variable {inner outer area : Area} {column row : Nat}

theorem Fits.sum?_left (fits : area.Fits) (near : column ≤ area.width) :
    Coordinate.sum? area.left column = some (area.left + column) :=
  Coordinate.sum?_of_le (Nat.le_trans (Nat.add_le_add_left near area.left) fits.1)

theorem Fits.sum?_top (fits : area.Fits) (near : row ≤ area.height) :
    Coordinate.sum? area.top row = some (area.top + row) :=
  Coordinate.sum?_of_le (Nat.le_trans (Nat.add_le_add_left near area.top) fits.2)

/-- A part of an area, from a column and a row of it on. -/
def part (area : Area) (column row width height : Nat) : Area :=
  ⟨area.left + column, area.top + row, width, height⟩

theorem part_inside {width height : Nat} (columns : column + width ≤ area.width)
    (rows : row + height ≤ area.height) : (area.part column row width height).Inside area := by
  simp only [Inside, part, right, bottom]
  omega

theorem mem_cells_iff : (column, row) ∈ area.cells ↔
    area.left ≤ column ∧ column < area.right ∧ area.top ≤ row ∧ row < area.bottom := by
  simp only [cells, right, bottom, List.mem_flatMap, List.mem_map, List.mem_range, Prod.mk.injEq]
  constructor
  · rintro ⟨dy, low, dx, near, rfl, rfl⟩
    omega
  · rintro ⟨left, near, top, low⟩
    exact ⟨row - area.top, by omega, column - area.left, by omega, by omega, by omega⟩

theorem Inside.cells_subset (inside : inner.Inside outer) : inner.cells ⊆ outer.cells := by
  rintro ⟨column, row⟩ cell
  obtain ⟨left, top, right, bottom⟩ := inside
  obtain ⟨afterLeft, near, afterTop, low⟩ := mem_cells_iff.mp cell
  exact mem_cells_iff.mpr ⟨by omega, by omega, by omega, by omega⟩

end Area

end Terminal

namespace Dashboard

open Terminal

theorem noticeWidth_le (length : Nat) : noticeWidth length ≤ 60 := Nat.min_le_left _ _

section

variable {area : Area} (fits : area.Fits)

include fits

/-- A notice leaves a column free on its right and two rows below it, where there is room. -/
theorem noticeArea?_of_fits (length : Nat) : ∃ width height,
    width = min (noticeWidth length) area.width ∧ height = min 3 area.height ∧
      noticeArea? area length =
        some (area.part (area.width - (width + 1)) (area.height - (height + 2)) width height) := by
  refine ⟨_, _, rfl, rfl, ?_⟩
  have narrow : min (noticeWidth length) area.width ≤ 60 :=
    Nat.le_trans (Nat.min_le_left _ _) (noticeWidth_le length)
  have low : min 3 area.height ≤ 3 := Nat.min_le_left _ _
  have columns := Coordinate.sum?_of_le (Nat.le_trans (Nat.add_le_add_right narrow 1) (by decide))
  have rows := Coordinate.sum?_of_le (Nat.le_trans (Nat.add_le_add_right low 2) (by decide))
  simp only [noticeArea?, columns, rows, fits.sum?_left (Nat.sub_le _ _),
    fits.sum?_top (Nat.sub_le _ _), Option.bind_eq_bind, Option.bind_some]
  rfl

/-- Help leaves as many columns free on one side as on the other, and as many rows, up to one. -/
theorem helpArea?_of_fits : ∃ width height,
    width = min 44 (area.width - 4) ∧ height = min 12 (area.height - 4) ∧
      helpArea? area =
        some (area.part ((area.width - width) / 2) ((area.height - height) / 2) width height) := by
  refine ⟨_, _, rfl, rfl, ?_⟩
  have left := fits.sum?_left
    (Nat.le_trans (Nat.div_le_self _ 2) (Nat.sub_le area.width (min 44 (area.width - 4))))
  have top := fits.sum?_top
    (Nat.le_trans (Nat.div_le_self _ 2) (Nat.sub_le area.height (min 12 (area.height - 4))))
  simp only [helpArea?, left, top, Option.bind_eq_bind, Option.bind_some]
  rfl

end

/-- On an area of any size that lies on a terminal, a notice with any message has a place and help
has one, so that no sum on the way to them is too great for a terminal.  Both places lie inside the
area, and so does each of their cells. -/
theorem overlays_fit_any_area {area : Area} (fits : area.Fits) (message : String) :
    (∃ place, noticeArea? area message.length = some place ∧ place.Inside area ∧
      place.cells ⊆ area.cells) ∧
    ∃ place, helpArea? area = some place ∧ place.Inside area ∧ place.cells ⊆ area.cells := by
  constructor
  · obtain ⟨width, height, wide, high, placed⟩ := noticeArea?_of_fits fits message.length
    have columns : area.width - (width + 1) + width ≤ area.width := by omega
    have rows : area.height - (height + 2) + height ≤ area.height := by omega
    have inside := Area.part_inside columns rows
    exact ⟨_, placed, inside, inside.cells_subset⟩
  · obtain ⟨width, height, wide, high, placed⟩ := helpArea?_of_fits fits
    have columns : (area.width - width) / 2 + width ≤ area.width := by omega
    have rows : (area.height - height) / 2 + height ≤ area.height := by omega
    have inside := Area.part_inside columns rows
    exact ⟨_, placed, inside, inside.cells_subset⟩

/-- In the last corner of a terminal five columns and four rows are enough for both overlays,
however long the message is. -/
theorem overlays_fit_last_corner :
    let area : Area := ⟨65530, 65531, 5, 4⟩
    let message := String.ofList (List.replicate 70000 'x')
    let notice : Area := ⟨65530, 65531, 5, 3⟩
    let help : Area := ⟨65532, 65533, 1, 0⟩
    area.Fits ∧ noticeArea? area message.length = some notice ∧ helpArea? area = some help ∧
      notice.Inside area ∧ notice.cells ⊆ area.cells ∧ help.Inside area := by
  intro area message notice help
  have fits : area.Fits := ⟨by decide, by decide⟩
  have long : message.length = 70000 := String.length_ofList.trans List.length_replicate
  have noticed : noticeArea? area message.length = some notice := by
    rw [long]
    decide
  have helped : helpArea? area = some help := by decide
  obtain ⟨⟨first, placed, inside, cells⟩, second, found, within, -⟩ :=
    overlays_fit_any_area fits message
  obtain rfl := Option.some.inj (noticed.symm.trans placed)
  obtain rfl := Option.some.inj (helped.symm.trans found)
  exact ⟨fits, noticed, helped, inside, cells, within⟩

end Dashboard

end DevicePanel
