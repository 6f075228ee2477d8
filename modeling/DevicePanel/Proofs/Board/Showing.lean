import DevicePanel.Proofs.Switchboard.Replay

/-!
# A board that shows news

News tell a state for some identifiers.  On a board on which no identifier stands twice, writing
events one after the other comes to the same as letting every device's row show the last state
that the events tell for it.
-/

namespace DevicePanel

namespace Board

/-- The row with the state that the news tell for its device, if they tell one. -/
def Row.showing (news : String → Option String) : Row → Row
  | .heading typeName => .heading typeName
  | .device row => .device { row with state := (news row.id).getD row.state }

/-- The board with the states that the news tell. -/
def showing (board : Board) (news : String → Option String) : Board :=
  { board with rows := board.rows.map (Row.showing news) }

/-- Boards show the same if the news agree on the identifiers that stand on the board. -/
theorem showing_congr {board : Board} (indexed : board.Indexed)
    {news other : String → Option String}
    (agree : ∀ id, (board.place? id).isSome = true → news id = other id) :
    board.showing news = board.showing other := by
  have rows : board.rows.map (Row.showing news) = board.rows.map (Row.showing other) := by
    apply List.map_congr_left
    intro row member
    cases row with
    | heading typeName => rfl
    | device row =>
        have known : (board.place? row.id).isSome = true := by
          rw [indexed row.id, List.findIdx?_isSome, List.any_eq_true]
          exact ⟨.device row, member, by simp [Row.shows]⟩
        simp only [Row.showing, agree row.id known]
  rw [showing, showing, rows]

/-- Every device's row is the first one of its identifier. -/
def Distinct (board : Board) : Prop :=
  ∀ place row, board.row? place = some (.device row) → board.place? row.id = some place

theorem distinct_ofDevices {devices : List Device} (distinct : (devices.map Device.id).Nodup) :
    (ofDevices devices).Distinct := by
  intro place row found
  rw [(indexed_ofDevices devices).place?_eq_some_iff]
  refine ⟨⟨row, deviceRow?_eq_some_iff.mpr found, rfl⟩, ?_⟩
  intro earlier before other otherFound same
  have ids : (((ofDevices devices).rows.filterMap Row.device?).map DeviceRow.id).Nodup := by
    simpa [ofDevices, filterMap_device?_rowsAfter, Function.comp_def, DeviceRow.ofDevice]
      using distinct
  rw [List.Nodup, List.pairwise_map, List.pairwise_filterMap, List.pairwise_iff_getElem] at ids
  obtain ⟨inside, stands⟩ := List.getElem?_eq_some_iff.mp found
  obtain ⟨otherInside, otherStands⟩ :=
    List.getElem?_eq_some_iff.mp (deviceRow?_eq_some_iff.mp otherFound)
  have differ := ids earlier place otherInside inside before
  rw [stands, otherStands] at differ
  exact differ other rfl row rfl same

theorem places_follow {board : Board} (indexed : board.Indexed) (event : Event) :
    (board.follow event).places = board.places := by
  obtain ⟨same, -⟩ | ⟨place, row, state, -, -, -, -, written⟩ := follow_cases indexed event
  · rw [same]
  · rw [written]

theorem indexed_replay {board : Board} (indexed : board.Indexed) (events : List Event) :
    (board.replay events).Indexed := by
  induction events generalizing board with
  | nil => exact indexed
  | cons event events ih => exact ih (indexed_follow indexed event)

theorem places_replay {board : Board} (indexed : board.Indexed) (events : List Event) :
    (board.replay events).places = board.places := by
  induction events generalizing board with
  | nil => rfl
  | cons event events ih =>
      exact (ih (indexed_follow indexed event)).trans (places_follow indexed event)

/-- Without a repeated identifier, all that the events leave is what they tell last. -/
theorem replay_eq_showing {board : Board} (indexed : board.Indexed) (distinct : board.Distinct)
    (events : List Event) : board.replay events = board.showing (Event.lastState? events) := by
  have rows : (board.replay events).rows =
      board.rows.map (Row.showing (Event.lastState? events)) := by
    apply List.ext_getElem?
    intro place
    rw [List.getElem?_map]
    cases stands : board.row? place with
    | none =>
        have outside : board.rows.length ≤ place := List.getElem?_eq_none_iff.mp stands
        rw [List.getElem?_eq_none_iff.mpr outside, List.getElem?_eq_none_iff.mpr]
        · rfl
        · rwa [length_replay indexed]
    | some row =>
        have here : board.rows[place]? = some row := stands
        rw [here]
        cases row with
        | heading typeName => exact row?_replay_heading indexed events stands
        | device row =>
            have shown := row?_replay_device indexed events stands
            rw [if_pos (distinct place row stands)] at shown
            exact shown
  have places := places_replay indexed events
  rw [showing, ← rows, ← places]

end Board

end DevicePanel
