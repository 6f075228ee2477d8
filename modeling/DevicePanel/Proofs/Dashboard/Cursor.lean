import DevicePanel.Proofs.Board.Places
import DevicePanel.Proofs.Dashboard.Highlight

/-!
# The cursor of the screen

The screen keeps the place of a row and the number of a button while the board under them may become
any other.  Whatever was pressed and shown, the place is that of a device's row, unless there is
none, and the number is that of one of its buttons, unless it has none.
-/

namespace DevicePanel.Dashboard

/-! ## Moves -/

/-- One place comes before another in a direction. -/
def Direction.Before (direction : Direction) (place other : Nat) : Prop :=
  match direction with
  | .forward => place < other
  | .backward => other < place

/-- The direction in which a key moves from device to device. -/
def KeyCode.direction? : KeyCode → Option Direction
  | .char 'j' | .down => some .forward
  | .char 'k' | .up => some .backward
  | _ => none

/-- In a direction the nearest device's row after a place is that at `next`. -/
structure Nearest (board : Board) (direction : Direction) (place next : Nat) : Prop where
  before : direction.Before place next
  isDevice : ∃ row, board.deviceRow? next = some row
  none_between : ∀ between, direction.Before place between → direction.Before between next →
    board.deviceRow? between = none

namespace Screen

/-- A move to the nearest device selects its first button; at the end nothing changes. -/
inductive Moves (direction : Direction) (screen : Screen) : Screen → Prop where
  | goes {place next : Nat} : screen.selected = some place →
      Nearest screen.snapshot.board direction place next →
      Moves direction screen { screen with selected := some next, button := 0 }
  | stops : (∀ place, screen.selected = some place → ∀ other, direction.Before place other →
      screen.snapshot.board.deviceRow? other = none) → Moves direction screen screen

/-- A device's row is selected unless there is none, and one of its buttons unless it has none. -/
structure Sound (screen : Screen) : Prop where
  none_iff : screen.selected = none ↔ screen.snapshot.board.devicePlaces = []
  stands : ∀ place, screen.selected = some place → place ∈ screen.snapshot.board.devicePlaces
  bounded : screen.selected ≠ none → screen.button ≤ screen.buttonCount - 1

theorem buttonCount_of_selected {screen : Screen} {place : Nat} {row : Board.DeviceRow}
    (selected : screen.selected = some place)
    (found : screen.snapshot.board.deviceRow? place = some row) :
    screen.buttonCount = row.buttons.length := by
  rw [buttonCount, selectedRow?, selected, Option.bind_some, found]

theorem buttonCount_of_none {screen : Screen} (none : screen.selected = none) :
    screen.buttonCount = 0 := by
  rw [buttonCount, selectedRow?, none]
  rfl

theorem deviceRow?_eq_none_of_notMem {board : Board} {place : Nat}
    (unlisted : place ∉ board.devicePlaces) : board.deviceRow? place = none := by
  rw [Option.eq_none_iff_forall_ne_some]
  intro row found
  exact unlisted (Board.mem_devicePlaces_iff.mpr ⟨row, found⟩)

theorem moveSelection_of_empty {screen : Screen} {direction : Direction}
    (empty : screen.snapshot.board.devicePlaces = []) :
    screen.moveSelection direction = screen := by
  rw [moveSelection]
  simp [empty]

section

variable {screen : Screen} {direction : Direction} {n : Nat}
  (inside : n < screen.snapshot.board.devicePlaces.length)
  (selected : screen.selected = some screen.snapshot.board.devicePlaces[n])

include inside selected

/-- A move goes by the number that the selected place has among all. -/
theorem moveSelection_of_number :
    let places := screen.snapshot.board.devicePlaces
    let next := places[direction.move n (places.length - 1)]?
    screen.moveSelection direction =
      if next = screen.selected then screen else { screen with selected := next, button := 0 } := by
  intro places next
  have number : places.idxOf? places[n] = some n := by
    rw [List.idxOf?_eq_some_iff]
    refine ⟨inside, rfl, fun other earlier => ?_⟩
    exact (List.pairwise_iff_getElem.mp
      (Board.sortedLT_devicePlaces screen.snapshot.board).pairwise _ _ (by omega) inside
        earlier).ne
  have some : places.isEmpty = false := by
    rw [List.isEmpty_eq_false_iff]
    exact List.ne_nil_of_length_pos (Nat.zero_lt_of_lt inside)
  rw [moveSelection]
  simp only [selected, Option.bind_some]
  rw [if_neg (by simpa using some), number]
  rfl

theorem moveSelection_of_same
    (same : direction.move n (screen.snapshot.board.devicePlaces.length - 1) = n) :
    screen.moveSelection direction = screen := by
  rw [moveSelection_of_number inside selected, same, List.getElem?_eq_getElem inside,
    if_pos selected.symm]

theorem moveSelection_of_other {k : Nat} (within : k < screen.snapshot.board.devicePlaces.length)
    (moved : direction.move n (screen.snapshot.board.devicePlaces.length - 1) = k)
    (other : k ≠ n) : screen.moveSelection direction =
      { screen with selected := some screen.snapshot.board.devicePlaces[k], button := 0 } := by
  have sorted := Board.sortedLT_devicePlaces screen.snapshot.board
  rw [moveSelection_of_number inside selected, moved, List.getElem?_eq_getElem within, if_neg]
  rw [selected, Option.some.injEq, sorted.nodup.getElem_inj_iff]
  exact other

theorem moves_forward : screen.Moves .forward (screen.moveSelection .forward) := by
  have sorted := Board.sortedLT_devicePlaces screen.snapshot.board
  by_cases last : n + 1 = screen.snapshot.board.devicePlaces.length
  · rw [moveSelection_of_same inside selected (by rw [Direction.move]; omega)]
    refine .stops fun place same other beyond => deviceRow?_eq_none_of_notMem fun member => ?_
    obtain rfl := Option.some.inj (selected.symm.trans same)
    exact Nat.not_lt.mpr (Board.le_getElem_of_last sorted last member) beyond
  · have within : n + 1 < screen.snapshot.board.devicePlaces.length := by omega
    rw [moveSelection_of_other inside selected within (by rw [Direction.move]; omega) (by omega)]
    refine .goes selected ⟨sorted.getElem_lt_getElem_iff.mpr n.lt_succ_self,
      Board.mem_devicePlaces_iff.mp (List.getElem_mem within), fun between after before => ?_⟩
    exact deviceRow?_eq_none_of_notMem (Board.not_mem_between sorted after before)

theorem moves_backward : screen.Moves .backward (screen.moveSelection .backward) := by
  have sorted := Board.sortedLT_devicePlaces screen.snapshot.board
  cases n with
  | zero =>
      rw [moveSelection_of_same inside selected (by rw [Direction.move]; omega)]
      refine .stops fun place same other beyond => deviceRow?_eq_none_of_notMem fun member => ?_
      obtain rfl := Option.some.inj (selected.symm.trans same)
      obtain ⟨k, within, rfl⟩ := List.getElem_of_mem member
      exact Nat.not_lt_zero k (sorted.getElem_lt_getElem_iff.mp beyond)
  | succ n =>
      have within : n < screen.snapshot.board.devicePlaces.length := by omega
      rw [moveSelection_of_other inside selected within (by rw [Direction.move]; omega) (by omega)]
      refine .goes selected ⟨sorted.getElem_lt_getElem_iff.mpr n.lt_succ_self,
        Board.mem_devicePlaces_iff.mp (List.getElem_mem within), fun between after before => ?_⟩
      exact deviceRow?_eq_none_of_notMem (Board.not_mem_between sorted before after)

end

theorem moves_moveSelection {screen : Screen} (sound : screen.Sound) (direction : Direction) :
    screen.Moves direction (screen.moveSelection direction) := by
  cases selected : screen.selected with
  | none =>
      rw [moveSelection_of_empty (sound.none_iff.mp selected)]
      exact .stops (by simp [selected])
  | some place =>
      obtain ⟨n, inside, rfl⟩ := List.getElem_of_mem (sound.stands place selected)
      cases direction with
      | forward => exact moves_forward inside selected
      | backward => exact moves_backward inside selected

/-! ## What reaches the screen -/

inductive Input where
  | key (key : Key)
  | action (action : Action)

def receive (screen : Screen) : Input → Screen
  | .key key => (screen.press key).1
  | .action action => screen.update action

def after : Screen → List Input → Screen
  | screen, [] => screen
  | screen, input :: inputs => (screen.receive input).after inputs

theorem sound_start : start.Sound := ⟨by decide, nofun, fun some => absurd rfl some⟩

theorem sound_fail (screen : Screen) (reason : String) : (screen.fail reason).Sound :=
  ⟨iff_of_true rfl rfl, nofun, fun some => absurd rfl some⟩

theorem selected_reconcile (screen : Screen) : screen.reconcile.selected =
    (screen.selected.filter fun place => screen.snapshot.board.devicePlaces.contains place).or
      screen.snapshot.board.devicePlaces.head? := rfl

theorem sound_reconcile (screen : Screen) : screen.reconcile.Sound := by
  have snapshot : screen.reconcile.snapshot = screen.snapshot := rfl
  refine ⟨?_, ?_, fun _ => Nat.min_le_right _ _⟩
  · rw [selected_reconcile, snapshot, Option.or_eq_none_iff, List.head?_eq_none_iff]
    refine and_iff_right_of_imp fun empty => ?_
    simp [empty]
  · intro place same
    rw [selected_reconcile, Option.or_eq_some_iff, Option.filter_eq_some_iff] at same
    obtain ⟨-, listed⟩ | ⟨-, first⟩ := same
    · exact List.contains_iff_mem.mp listed
    · exact List.mem_of_head? first

theorem Sound.pressed {screen later : Screen} {action : Option Action} (sound : screen.Sound)
    (pressed : Pressed screen later action) : later.Sound := by
  -- Only the keys that move and those that turn change what is selected.
  cases pressed with
  | selects direction =>
      have moves := moves_moveSelection sound direction
      generalize screen.moveSelection direction = later at moves
      cases moves with
      | goes selected nearest =>
          have listed := Board.mem_devicePlaces_iff.mpr nearest.isDevice
          refine ⟨iff_of_false nofun (List.ne_nil_of_mem listed), ?_, fun _ => Nat.zero_le _⟩
          rintro place ⟨⟩
          exact listed
      | stops => exact sound
  | turns direction =>
      rw [moveButton]
      split
      · exact sound
      · refine ⟨sound.none_iff, sound.stands, fun _ => ?_⟩
        cases direction <;> exact Nat.min_le_right _ _
  | _ => exact sound

theorem Sound.receive {screen : Screen} (sound : screen.Sound) (input : Input) :
    (screen.receive input).Sound := by
  cases input with
  | key key => exact sound.pressed (pressed_screen screen key)
  | action action =>
      cases action with
      | refresh snapshot => exact sound_reconcile _
      | loadFailed reason => exact sound_fail screen reason
      | _ => exact sound

theorem Sound.after {screen : Screen} (sound : screen.Sound) (inputs : List Input) :
    (screen.after inputs).Sound := by
  induction inputs generalizing screen with
  | nil => exact sound
  | cons input inputs ih => exact ih (sound.receive input)

theorem Sound.aimed {screen : Screen} (sound : screen.Sound) : screen.Aimed := by
  intro some
  have selected : screen.selected ≠ none := mt buttonCount_of_none some
  have bound := sound.bounded selected
  omega

/-- What stands on a board of the same outline under the cursor has as many buttons. -/
theorem buttonCount_of_outline {screen other : Screen} (selected : other.selected = screen.selected)
    (same : other.snapshot.board.outline = screen.snapshot.board.outline) :
    other.buttonCount = screen.buttonCount := by
  cases pointed : screen.selected with
  | none => rw [buttonCount_of_none pointed, buttonCount_of_none (selected.trans pointed)]
  | some place =>
      have buttons := Board.buttons_of_outline same place
      rw [buttonCount, selectedRow?, selected, pointed, Option.bind_some, buttonCount, selectedRow?,
        pointed, Option.bind_some]
      cases here : screen.snapshot.board.deviceRow? place with
      | none =>
          rw [here, Option.map_none, Option.map_eq_none_iff] at buttons
          rw [buttons]
      | some row =>
          rw [here, Option.map_some, Option.map_eq_some_iff] at buttons
          obtain ⟨later, there, alike⟩ := buttons
          rw [there]
          simp only [alike]

/-- A snapshot that differs from the one that is shown in states and marks only leaves the selection
where it is; a button stays selected with its device, and without a device it is the first one. -/
theorem display_of_outline {screen : Screen} (sound : screen.Sound) {snapshot : Snapshot}
    (same : snapshot.board.outline = screen.snapshot.board.outline) :
    (screen.display snapshot).selected = screen.selected ∧
      (screen.selected ≠ none → (screen.display snapshot).button = screen.button) ∧
      (screen.selected = none → (screen.display snapshot).button = 0) := by
  have places := Board.devicePlaces_of_outline same
  have selected : (screen.display snapshot).selected = screen.selected := by
    rw [display, selected_reconcile]
    dsimp only
    rw [places]
    cases pointed : screen.selected with
    | none => rw [sound.none_iff.mp pointed]; rfl
    | some place =>
        have listed := List.contains_iff_mem.mpr (sound.stands place pointed)
        rw [Option.filter_some, if_pos listed, Option.some_or]
  have button : (screen.display snapshot).button =
      min screen.button ((screen.display snapshot).buttonCount - 1) := rfl
  rw [buttonCount_of_outline selected same] at button
  refine ⟨selected, fun some => ?_, fun none => ?_⟩
  · rw [button, Nat.min_eq_left (sound.bounded some)]
  · rw [button, buttonCount_of_none none, Nat.zero_sub, Nat.min_zero]

theorem isSome_activation?_iff {screen : Screen} :
    screen.activation?.isSome ↔ ∃ place row, screen.selected = some place ∧
      screen.snapshot.board.deviceRow? place = some row ∧ row.buttons ≠ [] := by
  cases selected : screen.selected with
  | none => simp [activation?, selected]
  | some place =>
      cases found : screen.snapshot.board.deviceRow? place with
      | none =>
          have count : screen.buttonCount = 0 := by
            rw [buttonCount, selectedRow?, selected, Option.bind_some, found]
          simp [activation?, selected, count, found]
      | some row =>
          have count := buttonCount_of_selected selected found
          cases buttons : row.buttons <;> simp [activation?, selected, count, found, buttons]

theorem exists_of_activation? {screen : Screen} {action : Action}
    (activation : screen.activation? = some action) :
    ∃ place, action = .activate place screen.button := by
  unfold activation? at activation
  split at activation <;> cases activation
  exact ⟨_, rfl⟩

theorem press_of_direction? {key : Key} {direction : Direction}
    (moves : key.code.direction? = some direction) (screen : Screen) :
    screen.press key = (screen.moveSelection direction, none) := by
  unfold KeyCode.direction? at moves
  unfold press
  split at moves <;> cases moves <;> simp only [*]

/-- After any keys and actions: a device's row is selected, unless there is none on the board that
is shown, and the number of the selected button is that of one of its buttons, or the first one if
it has none.  The key that sends gives an action exactly if the selected device has a button, and it
is about the selected button, which stands on the board.  The keys that move go to the nearest
device in their direction and begin with its first button, and do nothing where there is no other
device.  Another snapshot with the same rows but for states leaves the selection where it is, and
the button as well where a device is selected; elsewhere the number of the button goes back to the
first. -/
theorem cursor_stays_on_devices (inputs : List Input) :
    let screen := start.after inputs
    let board := screen.snapshot.board
    (screen.selected = none ↔ ∀ place, board.deviceRow? place = none) ∧
    (∀ place, screen.selected = some place → ∃ row, board.row? place = some (.device row) ∧
      (screen.button < row.buttons.length ∨ row.buttons = [] ∧ screen.button = 0)) ∧
    (∀ key : Key, key.code = .enter → (screen.press key).1 = screen ∧
      ((screen.press key).2.isSome ↔ ∃ place row, screen.selected = some place ∧
        board.deviceRow? place = some row ∧ row.buttons ≠ []) ∧
      ∀ action, (screen.press key).2 = some action → ∃ place button,
        screen.selected = some place ∧ action = .activate place screen.button ∧
        board.button? place screen.button = some button) ∧
    (∀ (key : Key) (direction : Direction), key.code.direction? = some direction →
      (screen.press key).2 = none ∧ screen.Moves direction (screen.press key).1) ∧
    ∀ snapshot : Snapshot, snapshot.board.outline = board.outline →
      let later := screen.update (.refresh snapshot)
      later.selected = screen.selected ∧
        (screen.selected ≠ none → later.button = screen.button) ∧
        (screen.selected = none → later.button = 0) := by
  intro screen board
  have sound : screen.Sound := sound_start.after inputs
  refine ⟨?_, ?_, ?_, ?_, fun snapshot same => display_of_outline sound same⟩
  · rw [sound.none_iff, List.eq_nil_iff_forall_not_mem]
    simp only [Board.mem_devicePlaces_iff, not_exists, ← Option.eq_none_iff_forall_ne_some]
    rfl
  · intro place selected
    obtain ⟨row, found⟩ := Board.mem_devicePlaces_iff.mp (sound.stands place selected)
    refine ⟨row, Board.deviceRow?_eq_some_iff.mp found, ?_⟩
    have bound := sound.bounded (by rw [selected]; exact Option.some_ne_none place)
    rw [buttonCount_of_selected selected found] at bound
    rw [← List.length_eq_zero_iff]
    omega
  · intro key enter
    have pressed : screen.press key = (screen, screen.activation?) := by
      rw [press, enter]
    rw [pressed]
    refine ⟨rfl, isSome_activation?_iff, fun action activation => ?_⟩
    obtain ⟨place, rfl⟩ := exists_of_activation? activation
    obtain ⟨selected, -, button, stands⟩ := sound.aimed.activation? activation
    exact ⟨place, button, selected, rfl, stands⟩
  · intro key direction moves
    rw [press_of_direction? moves]
    exact ⟨rfl, moves_moveSelection sound direction⟩

/-- Where no device is selected, another snapshot of the same empty board changes the number of the
button: it was left from before the listing failed, and goes back to the first one.  It shows when
the lamp is back, as the button that is sent then is another one than it would have been. -/
theorem refresh_without_device_changes_button :
    let lamp : Snapshot := ⟨.ofDevices [⟨"lamp", "Lamp", "Light", "off", ["on", "off"]⟩], []⟩
    let key (code : KeyCode) : Key := ⟨code, false, false, false⟩
    let screen := start.after
      [.action (.refresh lamp), .key (key .right), .action (.loadFailed "gone")]
    let marked : Snapshot := ⟨.empty, ["lamp"]⟩
    let later := screen.update (.refresh marked)
    marked.board = screen.snapshot.board ∧ later.selected = screen.selected ∧
      screen.button = 1 ∧ later.button = 0 ∧
      ((screen.update (.refresh lamp)).press (key .enter)).2 = some (.activate 1 1) ∧
      ((later.update (.refresh lamp)).press (key .enter)).2 = some (.activate 1 0) :=
  ⟨rfl, rfl, rfl, rfl, rfl, rfl⟩

end Screen

end DevicePanel.Dashboard
