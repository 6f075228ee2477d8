import DevicePanel.Console.Run
import DevicePanel.Proofs.Board.Outline
import DevicePanel.Proofs.Hub.Offering

/-!
# A command from the command line

The program lists the devices and sends a command if the hub offers it, once.  It succeeds if a row
is patched, and then it shows what the hub told of this row's device.  Its command is the only one
under way, so it is never superseded and its row is there when it is shown.
-/

namespace DevicePanel

namespace Console

/-! ## Pressing a button on a board that was just filled -/

section

variable {run : Run} {devices : List Device}

theorem press_of_unlisted (respond : Ticket → Response)
    (filled : run.desk.board = .ofDevices devices) {device : String}
    (unlisted : ∀ shown ∈ devices, shown.id ≠ device) (command : String) :
    press respond run device command = ⟨none, .error (.notFound "Device" device listOrder)⟩ := by
  rw [press, filled, Board.place?_ofDevices_eq_none_iff.mpr unlisted]

theorem press_of_listed (respond : Ticket → Response)
    (filled : run.desk.board = .ofDevices devices) (distinct : (devices.map Device.id).Nodup)
    {shown : Device} (listed : shown ∈ devices) (command : String) :
    press respond run shown.id command =
      if command ∈ shown.commands then
        ⟨some (run.desk.nextTicket shown.id command),
          awaitAnswer (run.dispatch respond shown.id command).1
            (run.desk.nextTicket shown.id command)⟩
      else
        ⟨none, .error (.unknownCommand shown.id command (Fault.namesOrNone shown.commands))⟩ := by
  obtain ⟨place, known, stands⟩ := Board.exists_place_of_mem distinct listed
  rw [← filled] at known stands
  have found : run.desk.board.find? shown.id = some (.ofDevice shown) := by
    rw [Board.find?, known]
    exact stands
  let button (command : String) : Button := ⟨shown.id, command⟩
  have buttons : ((run.desk.board.find? shown.id).map Board.DeviceRow.buttons).getD [] =
      shown.commands.map button := by
    rw [found]
    rfl
  have commands : (shown.commands.map button).map Button.command = shown.commands := by
    rw [List.map_map]
    exact List.map_id _
  have index : (shown.commands.map button).findIdx? (fun button => button.command == command) =
      shown.commands.findIdx? (· == command) := List.findIdx?_map
  simp only [press, known, buttons, commands, index]
  cases position : shown.commands.findIdx? (· == command) with
  | none =>
      have unoffered : command ∉ shown.commands := by
        intro offered
        simpa using List.findIdx?_eq_none_iff.mp position command offered
      rw [if_neg unoffered]
  | some index =>
      obtain ⟨inside, same, -⟩ := List.findIdx?_eq_some_iff_getElem.mp position
      have same : shown.commands[index] = command := by simpa using same
      have offered : command ∈ shown.commands := same ▸ List.getElem_mem inside
      have pressed : run.desk.board.button? place index = some (button command) := by
        rw [Board.button?, stands, Option.bind_some]
        simp [Board.DeviceRow.ofDevice, inside, same, button]
      rw [if_pos offered]
      simp only [Run.activate_of_button? pressed]
      rfl

end

/-! ## Waiting for the answer -/

namespace Fault

theorem ofStatus_cases (code : Nat) (body : String) :
    ofStatus code body = .unauthorized code ∨ ofStatus code body = .status code body := by
  unfold ofStatus
  split
  · exact Or.inl rfl
  · exact Or.inr rfl

theorem ofCommand_eq_superseded {fault : CommandFault} {id command : String}
    (same : ofCommand fault = .superseded id command) : fault = .superseded id command := by
  cases fault with
  | status code body =>
      obtain told | told := ofStatus_cases code body <;> simp [ofCommand, told] at same
  | timedOut milliseconds => cases milliseconds <;> cases same
  | _ => cases same <;> rfl

theorem ofCommand_ne_notFound (fault : CommandFault) (kind name listing : String) :
    ofCommand fault ≠ .notFound kind name listing := by
  cases fault with
  | status code body => obtain told | told := ofStatus_cases code body <;> simp [ofCommand, told]
  | timedOut milliseconds => cases milliseconds <;> nofun
  | _ => nofun

theorem ofListing_ne_superseded (fault : ListingFault) (id command : String) :
    ofListing fault ≠ .superseded id command := by
  cases fault with
  | status code body => obtain told | told := ofStatus_cases code body <;> simp [ofListing, told]
  | _ => nofun

end Fault

/-- A command that is sent alone ends with the row that was patched, or with the fault of its own
completion. -/
theorem awaitAnswer_alone {run : Run} {notes : List Note} (placed : run.Placed notes)
    (indexed : run.desk.board.Indexed) (idle : run.desk.underWay = [])
    (untaken : run.taken = false) (respond : Ticket → Response) (device command : String) :
    let ticket := run.desk.nextTicket device command
    let result := ((respond ticket).outcome ticket run.limit).result
    let sent := (run.dispatch respond device command).1
    ∃ later, ((∃ update place row, result = .ok update ∧
        run.desk.board.deviceRow? place = some row ∧ row.id = update.id ∧
        sent.settle ticket = (later, .answer (.ok (.patched place update))) ∧
        later.desk.board.deviceRow? place = some { row with state := update.state } ∧
        awaitAnswer sent ticket = .ok ({ row with state := update.state }, update)) ∨
      ∃ fault, (∀ update, result = .ok update →
          ∀ place row, run.desk.board.deviceRow? place = some row → row.id ≠ update.id) ∧
        sent.settle ticket = (later, .answer (.error fault)) ∧
        (result = .error fault ∨ ∃ id, fault = .unknownDevice id) ∧
        awaitAnswer sent ticket = .error (.ofCommand fault)) := by
  intro ticket result sent
  have answer : (sent.settle ticket).2 = _ :=
    Run.answer_settle_alone placed indexed idle untaken respond device command
  obtain ⟨later, ⟨update, place, row, told, found, same, -, settled, desk⟩ |
      ⟨fault, unknown, settled, -⟩⟩ :=
    Run.settle_alone_cases placed indexed idle untaken respond device command
  · have shown : later.desk.board.deviceRow? place = some { row with state := update.state } := by
      obtain ⟨inside, -⟩ := List.getElem?_eq_some_iff.mp (Board.deviceRow?_eq_some_iff.mp found)
      rw [Board.deviceRow?_eq_some_iff, desk]
      exact List.getElem?_set_self inside
    refine ⟨later, Or.inl ⟨update, place, row, told, found, same, settled, shown, ?_⟩⟩
    simp only [awaitAnswer, sent, ticket, settled, shown]
  · refine ⟨later, Or.inr ⟨fault, unknown, settled, ?_, by
      simp only [awaitAnswer, sent, ticket, settled]⟩⟩
    rw [settled] at answer
    simp only [Run.Settled.answer.injEq, Completion.answerAt] at answer
    split at answer
    · next failed =>
        cases answer
        exact Or.inl failed
    · next update told =>
        split at answer
        · cases answer
        · cases answer
          exact Or.inr ⟨_, rfl⟩

/-! ## The whole invocation -/

/-- The text in which a form tells the new state of a device with this name. -/
def stateText (form : OutputForm) (name : String) (update : StateUpdate) : String :=
  let document : Json.Value := .object [("id", .text update.id), ("state", .text update.state)]
  match form with
  | .json => document.indentedText
  | .jsonCompact => document.compactText
  | .yaml => Yaml.document document
  | .plain => update.state
  | .table => "\n".intercalate
      ["ID:       " ++ update.id, "Name:     " ++ name, "State:    " ++ update.state]

theorem stateReport_eq (form : OutputForm) (row : Board.DeviceRow) (update : StateUpdate) :
    stateReport form row update = stateText form row.name update := by
  cases form with
  | table =>
      apply String.toList_inj.mp
      simp [stateReport, stateText, structured]
  | _ => rfl

section

variable {options : Options} {surroundings : Surroundings} {connection : Connection}
  {client : Hub.Client} {devices : List Device}

/-- The run of a connection once the devices are listed. -/
def listedRun (surroundings : Surroundings) (connection : Connection) (client : Hub.Client) : Run :=
  (connection.run.load (client.devices surroundings.network)).1

theorem placed_listedRun : (listedRun surroundings connection client).Placed
    (connection.run.journal [.once (.load (client.devices surroundings.network))]) :=
  Run.placed_after connection.policy connection.dispatchTimeout
    [.once (.load (client.devices surroundings.network))]

theorem indexed_listedRun : (listedRun surroundings connection client).desk.board.Indexed :=
  Run.indexed_after connection.policy connection.dispatchTimeout
    [.once (.load (client.devices surroundings.network))]

theorem idle_listedRun : (listedRun surroundings connection client).desk.underWay = [] := by
  simp only [listedRun, Run.load]
  cases Listing.ofSource (client.devices surroundings.network) <;> rfl

/-- What is shown for the answer to a command. -/
def reported (options : Options) : Except Fault (Board.DeviceRow × StateUpdate) → Outcome
  | .error fault => .failed fault
  | .ok (row, update) => .shown options.quiet (stateText options.output row.name update)

theorem Outcome.failure_shown (quiet : Bool) (text : String) :
    (shown quiet text).failure = none := by
  unfold shown
  split <;> rfl

theorem commandDeviceAfter_of_error {fault : ListingFault}
    (refused : (connection.run.load (client.devices surroundings.network)).2 = .error fault)
    (delay : Nat) (device command : String) :
    commandDeviceAfter delay options surroundings connection client device command =
      { Outcome.failed (.ofListing fault) with
        sent := (client.list surroundings.network).sent } := by
  have parts : connection.run.load (client.devices surroundings.network) =
      (listedRun surroundings connection client, .error fault) := Prod.ext rfl refused
  simp only [commandDeviceAfter, parts]

theorem commandDeviceAfter_of_ok
    (loaded : (connection.run.load (client.devices surroundings.network)).2 = .ok devices)
    (delay : Nat) (device command : String) :
    let network := surroundings.network
    let pressed := press (client.respondAfter network delay)
      (listedRun surroundings connection client) device command
    commandDeviceAfter delay options surroundings connection client device command =
      { reported options pressed.result with
        sent := (client.list network).sent ++ pressed.ticket.toList.flatMap fun ticket =>
          (client.commandAfter network delay ticket.device ticket.command).sent } := by
  have parts : connection.run.load (client.devices surroundings.network) =
      (listedRun surroundings connection client, .ok devices) := Prod.ext rfl loaded
  simp only [commandDeviceAfter, parts, stateReport_eq]
  rfl

theorem commandDeviceAfter_of_not_offers {device command : String}
    (unoffered : ¬ client.Offers surroundings.network device command) (options : Options)
    (connection : Connection) (delay : Nat) :
    ∃ fault, (∀ id name, fault ≠ .superseded id name) ∧
      commandDeviceAfter delay options surroundings connection client device command =
        { Outcome.failed fault with sent := (client.list surroundings.network).sent } := by
  cases loaded : (connection.run.load (client.devices surroundings.network)).2 with
  | error fault =>
      exact ⟨_, Fault.ofListing_ne_superseded fault, commandDeviceAfter_of_error loaded ..⟩
  | ok devices =>
      rw [commandDeviceAfter_of_ok loaded]
      have filled : (listedRun surroundings connection client).desk.board = .ofDevices devices :=
        Run.board_load_of_ok loaded
      by_cases shown : ∃ shown ∈ devices, shown.id = device
      · obtain ⟨shown, listed, rfl⟩ := shown
        have isNoCommand : command ∉ shown.commands := fun isCommand =>
          unoffered ((Hub.Client.offers_iff connection.run).mpr
            ⟨devices, loaded, shown, listed, rfl, isCommand⟩)
        rw [press_of_listed _ filled (Run.distinct_of_load loaded) listed, if_neg isNoCommand]
        exact ⟨.unknownCommand shown.id command (Fault.namesOrNone shown.commands), nofun,
          by simp [reported]⟩
      · simp only [not_exists, not_and] at shown
        rw [press_of_unlisted _ filled shown]
        exact ⟨.notFound "Device" device listOrder, nofun, by simp [reported]⟩

theorem commandDeviceAfter_of_offers {device command : String} {delay : Nat}
    (offered : client.Offers surroundings.network device command)
    {result : Except Fault (Board.DeviceRow × StateUpdate)}
    (answer : awaitAnswer ((listedRun surroundings connection client).dispatch
        (client.respondAfter surroundings.network delay) device command).1
      ((listedRun surroundings connection client).desk.nextTicket device command) = result) :
    commandDeviceAfter delay options surroundings connection client device command =
      { reported options result with
        sent := [client.listRequest, client.commandRequest device command] } := by
  obtain ⟨devices, loaded, shown, listed, rfl, isCommand⟩ :=
    (Hub.Client.offers_iff connection.run).mp offered
  have filled : (listedRun surroundings connection client).desk.board = .ofDevices devices :=
    Run.board_load_of_ok loaded
  obtain ⟨entries, ⟨web, -⟩, -⟩ := Hub.Client.load_eq_ok_iff_lists.mp loaded
  rw [commandDeviceAfter_of_ok loaded,
    press_of_listed _ filled (Run.distinct_of_load loaded) listed, if_pos isCommand, answer]
  simp [Hub.Client.sent_list, Hub.Client.sent_commandAfter, web, Switchboard.nextTicket]

/-- A command to the hub ends with the row of the listed device that the hub's answer names, or with
a fault, if there is no such answer; the fault is never that the command was superseded. -/
theorem awaitAnswer_listedRun {entries : List Hub.Entry}
    (lists : client.Lists surroundings.network entries) (delay : Nat) (device command : String) :
    let Answers :=
      client.Answers surroundings.network delay connection.dispatchTimeout device command
    let run := listedRun surroundings connection client
    let ticket := run.desk.nextTicket device command
    let sent := (run.dispatch (client.respondAfter surroundings.network delay) device command).1
    ∃ later, ((∃ answer entry place, Answers answer ∧ entry ∈ entries ∧
        entry.id.toText = answer.id.toText ∧
        sent.settle ticket = (later, .answer (.ok (.patched place answer.toUpdate))) ∧
        later.desk.board.deviceRow? place =
          some { Board.DeviceRow.ofEntry entry with state := answer.state.toText } ∧
        awaitAnswer sent ticket =
          .ok ({ Board.DeviceRow.ofEntry entry with state := answer.state.toText },
            answer.toUpdate)) ∨
      ∃ fault, (∀ answer, Answers answer → ∀ entry ∈ entries,
          entry.id.toText ≠ answer.id.toText) ∧
        sent.settle ticket = (later, .answer (.error fault)) ∧
        (∀ id name, fault ≠ .superseded id name) ∧
        awaitAnswer sent ticket = .error (.ofCommand fault)) := by
  intro Answers run ticket sent
  have told_iff (update : StateUpdate) :
      ((client.respondAfter surroundings.network delay ticket).outcome ticket run.limit).result =
          .ok update ↔
        ∃ answer, Answers answer ∧ answer.toUpdate = update :=
    Hub.Client.result_respondAfter_eq_ok_iff
  have untaken : run.taken = false := rfl
  obtain ⟨later, ⟨update, place, row, told, found, same, settles, stands, awaited⟩ |
      ⟨fault, unknown, settles, origin, awaited⟩⟩ :=
    awaitAnswer_alone placed_listedRun indexed_listedRun idle_listedRun untaken
      (client.respondAfter surroundings.network delay) device command
  · obtain ⟨answer, answers, rfl⟩ := (told_iff update).mp told
    obtain ⟨entry, listed, rfl⟩ := lists.exists_entry_of_deviceRow? connection.run found
    exact ⟨later, Or.inl ⟨answer, entry, place, answers, listed, same, settles, stands, awaited⟩⟩
  · refine ⟨later, Or.inr ⟨fault, ?_, settles, ?_, awaited⟩⟩
    · intro answer answers entry listed
      obtain ⟨place, stands⟩ := lists.exists_deviceRow?_of_mem connection.run listed
      exact unknown _ ((told_iff _).mpr ⟨answer, answers, rfl⟩) place _ stands
    · rintro id name rfl
      obtain told | ⟨_, other⟩ := origin
      · exact Hub.Client.result_respondAfter_ne_superseded delay _ ticket id name told
      · cases other

end

/-- A command that is asked for on the command line is sent once if the hub offers it: the hub lists
its devices, the device is among them and the command among those of the device.  Otherwise nothing
but the listing is asked for.  The program succeeds exactly if a row is patched, which is to say
that the hub answers the command within both limits for a device that it listed.  Then the
structured forms show the identifier and the state that the hub told, the table also shows the name
of the patched row, and the plain form shows the state.  The program never reports that the command
was superseded, and once the command was sent never that something was not found. -/
theorem command_is_sent_once_and_reported (delay : Nat) (options : Options)
    (surroundings : Surroundings) (connection : Connection) (client : Hub.Client)
    (device command : String) :
    let network := surroundings.network
    let limit := connection.dispatchTimeout
    let outcome := commandDeviceAfter delay options surroundings connection client device command
    let settled := (listedRun surroundings connection client).carryOut
      (client.respondAfter network delay) (.send device command)
    client.listRequest.method = .get ∧ (client.commandRequest device command).method = .post ∧
    (client.Offers network device command →
      outcome.sent = [client.listRequest, client.commandRequest device command]) ∧
    (¬ client.Offers network device command →
      outcome.sent = if client.base.isWeb then [client.listRequest] else []) ∧
    (outcome.failure = none ↔ client.Offers network device command ∧
      ∃ place update, settled.2 = .answer (.ok (.patched place update))) ∧
    (outcome.failure = none ↔ client.Offers network device command ∧
      ∃ entries answer, client.Lists network entries ∧
        client.Answers network delay limit device command answer ∧
        ∃ entry ∈ entries, entry.id.toText = answer.id.toText) ∧
    (∀ place update, client.Offers network device command →
      settled.2 = .answer (.ok (.patched place update)) →
      ∃ answer row, client.Answers network delay limit device command answer ∧
        update = answer.toUpdate ∧ settled.1.desk.board.deviceRow? place = some row ∧
        row.id = update.id ∧ row.state = update.state ∧
        (∀ entries, client.Lists network entries →
          ∃ entry ∈ entries, entry.id.toText = row.id ∧ entry.name = row.name) ∧
        outcome = { Outcome.shown options.quiet (stateText options.output row.name update) with
          sent := [client.listRequest, client.commandRequest device command] }) ∧
    (∀ id name, outcome.failure ≠ some (.superseded id name)) ∧
    (client.Offers network device command →
      ∀ kind name listing, outcome.failure ≠ some (.notFound kind name listing)) := by
  intro network limit outcome settled
  refine ⟨rfl, rfl, ?_⟩
  by_cases offered : client.Offers network device command
  · obtain ⟨entries, lists, -⟩ := id offered
    obtain ⟨later, ⟨answer, entry, place, answers, listed, same, settles, stands, awaited⟩ |
        ⟨fault, unknown, settles, notSuperseded, awaited⟩⟩ :=
      awaitAnswer_listedRun lists delay device command
    · have carried : settled = (later, .answer (.ok (.patched place answer.toUpdate))) := settles
      have whole : outcome = _ := commandDeviceAfter_of_offers offered awaited
      have succeeded : outcome.failure = none :=
        (congrArg Outcome.failure whole).trans (Outcome.failure_shown _ _)
      rw [carried, succeeded]
      refine ⟨fun _ => congrArg Outcome.sent whole, fun unoffered => absurd offered unoffered,
        ⟨fun _ => ⟨offered, place, _, rfl⟩, fun _ => rfl⟩, ⟨fun _ => ?_, fun _ => rfl⟩, ?_, nofun,
        fun _ => nofun⟩
      · exact ⟨offered, entries, answer, lists, answers, entry, listed, same⟩
      · rintro _ _ - ⟨⟩
        refine ⟨answer, _, answers, rfl, stands, same, rfl, ?_, whole⟩
        intro others also
        exact ⟨entry, also.unique lists ▸ listed, rfl, rfl⟩
    · have carried : settled = (later, .answer (.error fault)) := settles
      have whole : outcome = _ := commandDeviceAfter_of_offers offered awaited
      have failed : outcome.failure = some (.ofCommand fault) := congrArg Outcome.failure whole
      rw [carried, failed]
      refine ⟨fun _ => congrArg Outcome.sent whole, fun unoffered => absurd offered unoffered,
        by simp, ⟨nofun, ?_⟩, by simp, ?_, ?_⟩
      · rintro ⟨-, others, answer, also, answers, entry, listed, same⟩
        exact absurd same (unknown answer answers entry (also.unique lists ▸ listed))
      · intro id name superseded
        exact notSuperseded id name (Fault.ofCommand_eq_superseded (Option.some.inj superseded))
      · intro _ kind name listing notFound
        exact Fault.ofCommand_ne_notFound fault kind name listing (Option.some.inj notFound)
  · obtain ⟨fault, notSuperseded, whole⟩ :=
      commandDeviceAfter_of_not_offers offered options connection delay
    have failed : outcome.failure = some fault := congrArg Outcome.failure whole
    rw [failed]
    refine ⟨fun sent => absurd sent offered, fun _ => ?_, by simp [offered], by simp [offered],
      fun _ _ sent => absurd sent offered, ?_, fun sent => absurd sent offered⟩
    · exact (congrArg Outcome.sent whole).trans (client.sent_list network)
    · exact fun id name superseded => notSuperseded id name (Option.some.inj superseded)

/-- A hub that tells of the fan when the lamp is switched on.  The fan is shown by its name. -/
theorem command_to_lamp_shows_fan :
    let client : Hub.Client :=
      ⟨⟨"http".toList, ⟨[], []⟩, some (.domain "hub".toList), none, .segments [[]], none, none⟩,
        none, 30, .json⟩
    let listing := "[[7,\"Lamp\",\"Light\",\"off\",[\"on\"]],[8,\"Fan\",\"Switch\",\"off\",[]]]"
    let answer := "\x7b\"id\":8,\"state\":\"on\"\x7d"
    let hub : Hub.Network := fun request => .answered 200
      ((match request.method with | .get => listing | .post => answer).toList.map Char.toNat)
    let options : Options :=
      ⟨none, none, none, .table, .never, 0, false, false, none, none, none⟩
    let surroundings : Surroundings := ⟨"", none, [], ⟨[], none⟩, false, hub, fun _ => .ok ()⟩
    let connection := Connection.ofUrl client.base
    let switched := commandDeviceAfter 3 options surroundings connection client "7" "on"
    let unknown := commandDeviceAfter 3 options surroundings connection client "7" "off"
    switched.failure = none ∧
    switched.sent = [client.listRequest, client.commandRequest "7" "on"] ∧
    switched.output = "ID:       8\nName:     Fan\nState:    on\n" ∧
    unknown.sent = [client.listRequest] := by
  intro client listing answer hub options surroundings connection switched unknown
  let lamp : Hub.Entry := ⟨.number 7, "Lamp", "Light", .text "off", ["on"]⟩
  let fan : Hub.Entry := ⟨.number 8, "Fan", "Switch", .text "off", []⟩
  let received (document : String) : String :=
    String.ofList (Text.Utf8.decodeLossy (document.toList.map Char.toNat))
  have listed : Hub.Entry.ListedIn (received listing) [lamp, fan] :=
    Hub.Entry.read_listDecoder_eq_ok_iff.mp (Json.toOption_eq_some_iff.mp (by decide +kernel))
  have lists : client.Lists hub [lamp, fan] :=
    ⟨rfl, by decide +kernel, _, ⟨200, _, rfl, by decide, by decide, rfl⟩, listed⟩
  have offered : client.Offers hub "7" "on" :=
    ⟨_, lists, lamp, by simp, by decide +kernel, by simp [lamp]⟩
  have unoffered : ¬ client.Offers hub "7" "off" := by
    rintro ⟨entries, others, entry, member, -, isCommand⟩
    obtain rfl := others.unique lists
    simp only [List.mem_cons, List.not_mem_nil, or_false] at member
    obtain rfl | rfl := member
    · exact absurd isCommand (by decide +kernel)
    · exact absurd isCommand (by decide +kernel)
  have read : Json.read Hub.RawAnswer.decoder (received answer) =
      .ok ⟨some (.number 8), some (.text "on")⟩ :=
    Json.toOption_eq_some_iff.mp (by decide +kernel)
  have answers : client.Answers hub 3 connection.dispatchTimeout "7" "on"
      ⟨.number 8, .text "on"⟩ :=
    ⟨rfl, by decide, by decide, _, ⟨200, _, rfl, by decide, by decide, rfl⟩,
      Hub.Answer.exists_complete_iff.mp ⟨_, read, rfl⟩⟩
  obtain ⟨-, -, both, -, patched_iff, succeeds_iff, shows, -, -⟩ :=
    command_is_sent_once_and_reported 3 options surroundings connection client "7" "on"
  obtain ⟨-, -, -, one, -⟩ :=
    command_is_sent_once_and_reported 3 options surroundings connection client "7" "off"
  have succeeded : switched.failure = none :=
    succeeds_iff.mpr ⟨offered, _, _, lists, answers, fan, by simp, by decide +kernel⟩
  obtain ⟨-, place, update, patched⟩ := patched_iff.mp succeeded
  obtain ⟨told, row, tells, rfl, -, same, -, named, whole⟩ := shows place update offered patched
  obtain rfl : told = ⟨.number 8, .text "on"⟩ :=
    Except.ok.inj ((Hub.Client.answers_iff.mp tells).1.symm.trans
      (Hub.Client.answers_iff.mp answers).1)
  have name : row.name = "Fan" := by
    obtain ⟨entry, member, isRow, named⟩ := named _ lists
    rw [same] at isRow
    simp only [List.mem_cons, List.not_mem_nil, or_false] at member
    obtain rfl | rfl := member
    · exact absurd isRow (by decide +kernel)
    · exact named.symm
  refine ⟨succeeded, both offered, ?_, one unoffered⟩
  rw [name] at whole
  exact (congrArg Outcome.output whole).trans (by decide +kernel)

end Console

end DevicePanel
