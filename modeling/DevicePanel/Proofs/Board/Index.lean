import DevicePanel.Board

/-!
# The index of the board

The board remembers one place for each identifier.  On a board that was filled and then
patched any number of times this is the place of the first row that shows the identifier, so
writing a new state always finds that row, and finds none only if no row shows the identifier.
-/

namespace DevicePanel

namespace Board

/-- The row is a device's row with the identifier. -/
def Row.shows (id : String) : Row → Bool
  | .heading _ => false
  | .device row => row.id == id

/-- The remembered places are those of the first rows. -/
def Indexed (board : Board) : Prop :=
  ∀ id, board.place? id = board.rows.findIdx? (Row.shows id)

theorem filterMap_device?_rowsAfter (previous : Option String) (devices : List Device) :
    (rowsAfter previous devices).filterMap Row.device? = devices.map DeviceRow.ofDevice := by
  induction devices generalizing previous with
  | nil => rfl
  | cons device devices ih =>
      rw [rowsAfter]
      split <;> simp [List.filterMap_cons, Row.device?, ih]

/-- Entering places keeps those that are known and adds those of first rows. -/
theorem lookup_enterPlaces (next : Nat) (places : List (String × Nat)) (rows : List Row)
    (id : String) :
    (enterPlaces next places rows).lookup id =
      (places.lookup id).or ((rows.findIdx? (Row.shows id)).map fun place => place + next) := by
  induction rows generalizing next places with
  | nil => simp [enterPlaces]
  | cons row rows ih =>
      have shift : (fun place : Nat => place + (next + 1)) =
          (fun place => place + next) ∘ fun place => place + 1 := by
        funext place
        simp only [Function.comp_apply]
        omega
      cases row with
      | heading typeName =>
          rw [enterPlaces, ih, List.findIdx?_cons, shift]
          simp [Row.shows]
      | device row =>
          rw [enterPlaces, ih, List.findIdx?_cons, shift]
          by_cases same : row.id = id
          · subst same
            cases known : places.lookup row.id with
            | some place => simp only [known, Option.isSome_some, if_true, Option.some_or]
            | none =>
                simp only [known, Option.isSome_none, Bool.false_eq_true, if_false,
                  List.lookup_append, List.lookup_cons_self, Row.shows, beq_self_eq_true, if_true]
                simp
          · have other : (id == row.id) = false := beq_eq_false_iff_ne.mpr (Ne.symm same)
            split <;> simp [Row.shows, same, List.lookup_append, List.lookup_cons, other]

theorem indexed_ofDevices (devices : List Device) : (ofDevices devices).Indexed := by
  intro id
  simp [ofDevices, place?, lookup_enterPlaces]

theorem indexed_empty : empty.Indexed := fun _ => rfl

theorem Row.shows_iff {id : String} {row : Row} :
    row.shows id = true ↔ ∃ deviceRow, row = .device deviceRow ∧ deviceRow.id = id := by
  cases row <;> simp [shows]

theorem deviceRow?_eq_some_iff {board : Board} {place : Nat} {row : DeviceRow} :
    board.deviceRow? place = some row ↔ board.rows[place]? = some (.device row) := by
  simp only [deviceRow?, row?, Option.bind_eq_some_iff]
  constructor
  · rintro ⟨stands, found, same⟩
    cases stands with
    | heading typeName => simp [Row.device?] at same
    | device other =>
        obtain rfl : other = row := Option.some.inj same
        exact found
  · exact fun found => ⟨_, found, rfl⟩

/-- Nothing before the place shows the identifier. -/
def FirstAt (board : Board) (place : Nat) (id : String) : Prop :=
  ∀ earlier < place, ∀ row, board.deviceRow? earlier = some row → row.id ≠ id

namespace Indexed

variable {board : Board}

/-- A known place is that of the first row that shows the identifier. -/
theorem place?_eq_some_iff (indexed : board.Indexed) {id : String} {place : Nat} :
    board.place? id = some place ↔
      (∃ row, board.deviceRow? place = some row ∧ row.id = id) ∧ board.FirstAt place id := by
  rw [indexed id, List.findIdx?_eq_some_iff_getElem]
  constructor
  · rintro ⟨inside, here, before⟩
    obtain ⟨row, stands, same⟩ := Row.shows_iff.mp here
    refine ⟨⟨row, deviceRow?_eq_some_iff.mpr ?_, same⟩, ?_⟩
    · rw [List.getElem?_eq_getElem inside, stands]
    · intro earlier earlierLt other found otherSame
      obtain ⟨_, stands⟩ := List.getElem?_eq_some_iff.mp (deviceRow?_eq_some_iff.mp found)
      exact before earlier earlierLt (Row.shows_iff.mpr ⟨other, stands, otherSame⟩)
  · rintro ⟨⟨row, found, same⟩, before⟩
    obtain ⟨inside, stands⟩ := List.getElem?_eq_some_iff.mp (deviceRow?_eq_some_iff.mp found)
    refine ⟨inside, Row.shows_iff.mpr ⟨row, stands, same⟩, ?_⟩
    intro earlier earlierLt here
    obtain ⟨other, otherStands, otherSame⟩ := Row.shows_iff.mp here
    have otherFound : board.deviceRow? earlier = some other := by
      rw [deviceRow?_eq_some_iff, List.getElem?_eq_getElem (by omega), otherStands]
    exact before earlier earlierLt other otherFound otherSame

/-- An identifier without a place is shown by no row. -/
theorem place?_eq_none_iff (indexed : board.Indexed) {id : String} :
    board.place? id = none ↔ ∀ place row, board.deviceRow? place = some row → row.id ≠ id := by
  rw [indexed id, List.findIdx?_eq_none_iff]
  constructor
  · intro unshown place row found same
    have hidden := unshown _ (List.mem_of_getElem? (deviceRow?_eq_some_iff.mp found))
    rw [Row.shows_iff.mpr ⟨row, rfl, same⟩] at hidden
    exact Bool.noConfusion hidden
  · intro unshown row member
    rw [← Bool.not_eq_true]
    intro here
    obtain ⟨shown, rfl, same⟩ := Row.shows_iff.mp here
    obtain ⟨place, found⟩ := List.getElem?_of_mem member
    exact unshown place shown (deviceRow?_eq_some_iff.mpr found) same

/-- Writing a state finds a device's row at the known place. -/
theorem patch?_of_place? (indexed : board.Indexed) {id : String} {place : Nat}
    (known : board.place? id = some place) (state : String) :
    ∃ row, board.deviceRow? place = some row ∧ row.id = id ∧
      board.patch? id state =
        some (place, { board with rows := board.rows.set place (.device { row with state }) }) := by
  obtain ⟨⟨row, found, same⟩, -⟩ := indexed.place?_eq_some_iff.mp known
  refine ⟨row, found, same, ?_⟩
  rw [patch?, known]
  simp only [deviceRow?_eq_some_iff.mp found]

/-- Writing a state changes the first row that shows the identifier, and nothing else. -/
theorem patch?_eq_some (indexed : board.Indexed) {id state : String} {place : Nat}
    {later : Board} (written : board.patch? id state = some (place, later)) :
    board.place? id = some place ∧ ∃ row, board.deviceRow? place = some row ∧ row.id = id ∧
      later = { board with rows := board.rows.set place (.device { row with state }) } := by
  cases known : board.place? id with
  | none => simp [patch?, known] at written
  | some here =>
      obtain ⟨row, found, same, patched⟩ := indexed.patch?_of_place? known state
      obtain ⟨rfl, rfl⟩ := Prod.mk.inj (Option.some.inj (patched.symm.trans written))
      exact ⟨rfl, row, found, same, rfl⟩

end Indexed

/-- Writing over a row another one that shows the same keeps the first rows. -/
theorem findIdx?_set {id : String} {rows : List Row} {place : Nat} {old new : Row}
    (found : rows[place]? = some old) (same : new.shows id = old.shows id) :
    (rows.set place new).findIdx? (Row.shows id) = rows.findIdx? (Row.shows id) := by
  induction rows generalizing place with
  | nil => simp at found
  | cons row rows ih =>
      cases place with
      | zero =>
          obtain rfl : row = old := by simpa using found
          simp [List.findIdx?_cons, same]
      | succ place =>
          have tail := ih (show rows[place]? = some old by simpa using found)
          simp [List.findIdx?_cons, tail]

/-- Writing a state keeps the index right. -/
theorem indexed_set {board : Board} (indexed : board.Indexed) {place : Nat} {row : DeviceRow}
    (found : board.deviceRow? place = some row) (state : String) :
    Indexed { board with rows := board.rows.set place (.device { row with state }) } := by
  intro id
  have same : (board.rows.set place (.device { row with state })).findIdx? (Row.shows id) =
      board.rows.findIdx? (Row.shows id) :=
    findIdx?_set (deviceRow?_eq_some_iff.mp found) rfl
  exact (indexed id).trans same.symm

/-- Without a known place nothing is written. -/
theorem patch?_of_place?_eq_none {board : Board} {id : String} (unknown : board.place? id = none)
    (state : String) : board.patch? id state = none := by
  rw [patch?, unknown]

end Board

end DevicePanel
