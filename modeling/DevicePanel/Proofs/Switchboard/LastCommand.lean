import DevicePanel.Proofs.Switchboard.Gathering
import DevicePanel.Proofs.Switchboard.Overtaking
import DevicePanel.Proofs.Switchboard.Sending

/-!
# The last command of each device decides the board

Commands are sent while the background goes on, and then the completions are gathered.  When a new
command replaces the earlier ones, what is under way at the end of the sending are the last
commands of the devices.  Only their completions are answered to, so the board shows what these
tell, whatever the hub made of the other commands and whenever it did.
-/

namespace DevicePanel

/-- The tickets that no later one of the same commands overtakes. -/
def lastTickets (buttons : List Button) : List Ticket :=
  (ticketsAfter 0 buttons).filter fun ticket => !ticket.Overtaken (ticketsAfter 0 buttons)

/-- What the last command for each device tells about it: the state that the hub answers within
the limit, if it does. -/
def lastNews (limit : Nat) (hub : Ticket → Response) (buttons : List Button) (id : String) :
    Option String :=
  ((lastTickets buttons).find? fun ticket => ticket.device == id).bind fun ticket =>
    match ((hub ticket).outcome ticket limit).result with
    | .ok update => some update.state
    | .error _ => none

/-- The news depend on the hub only through its responses to the last commands. -/
theorem lastNews_congr {hub other : Ticket → Response} {buttons : List Button}
    (agree : ∀ ticket ∈ lastTickets buttons, hub ticket = other ticket) (limit : Nat) :
    lastNews limit hub buttons = lastNews limit other buttons := by
  funext id
  unfold lastNews
  cases found : (lastTickets buttons).find? fun ticket => ticket.device == id with
  | none => rfl
  | some ticket => simp only [Option.bind_some, agree ticket (List.mem_of_find?_eq_some found)]

/-- If only one member of a list is mapped to anything, the last result is that one's. -/
theorem getLast?_filterMap_of_only {α β : Type} {list : List α} {read : α → Option β} {member : α}
    (inside : member ∈ list)
    (only : ∀ other ∈ list, (read other).isSome = true → other = member) :
    (list.filterMap read).getLast? = read member := by
  cases value : read member with
  | none =>
      have nothing : list.filterMap read = [] := by
        rw [List.filterMap_eq_nil_iff]
        intro other otherInside
        by_contra something
        have told := Option.isSome_iff_ne_none.mpr something
        rw [only other otherInside told, value] at told
        exact Bool.noConfusion told
      rw [nothing]
      rfl
  | some result =>
      have all : ∀ found ∈ list.filterMap read, found = result := by
        intro found foundInside
        obtain ⟨other, otherInside, told⟩ := List.mem_filterMap.mp foundInside
        rw [only other otherInside (by simp [told]), value] at told
        exact (Option.some.inj told).symm
      have told : result ∈ list.filterMap read := List.mem_filterMap.mpr ⟨member, inside, value⟩
      have last := List.getLast?_eq_some_getLast (List.ne_nil_of_mem told)
      rw [last, all _ (List.getLast_mem _)]

namespace Run

namespace Commanded

variable {hub : Ticket → Response} {buttons : List Button} {run : Run} {notes : List Note}

/-- After the sending, the last commands of the devices are under way. -/
theorem mem_underWay_iff (commanded : Commanded hub buttons run notes)
    (policy : run.desk.policy = .supersede) {ticket : Ticket} :
    ticket ∈ run.desk.underWay ↔ ticket ∈ lastTickets buttons := by
  rw [lastTickets, List.mem_filter]
  constructor
  · intro underWay
    have issued := commanded.ledger.underWay ticket underWay
    have newest := commanded.overtaking.newest policy ticket underWay
    rw [commanded.issued] at issued newest
    exact ⟨issued, by simp [newest]⟩
  · rintro ⟨issued, last⟩
    exact commanded.underWay_of_not_overtaken issued (by simpa using last)

/-- Only the completion of a device's own last command tells a state for the device. -/
theorem last_of_stateTold? (commanded : Commanded hub buttons run notes)
    (policy : run.desk.policy = .supersede)
    (named : ∀ ticket ∈ lastTickets buttons, ∀ update,
      ((hub ticket).outcome ticket run.limit).result = .ok update → update.id = ticket.device)
    {completion : Completion} (coming : completion ∈ run.coming) {id : String}
    (told : (run.desk.stateTold? id completion).isSome = true) :
    ∃ ticket ∈ lastTickets buttons, ticket.device = id ∧
      completion = (hub ticket).outcome ticket run.limit := by
  have isUnderWay := Switchboard.isUnderWay_of_stateTold? told
  obtain ⟨ticket, underWay, same⟩ := List.mem_map.mp (Switchboard.isUnderWay_iff.mp isUnderWay)
  have outcome := (commanded.own underWay).2 completion coming same.symm
  have last := (commanded.mem_underWay_iff policy).mp underWay
  refine ⟨ticket, last, ?_, outcome⟩
  rw [Switchboard.stateTold?_of_isUnderWay isUnderWay, outcome, Completion.stateOf?] at told
  cases answered : ((hub ticket).outcome ticket run.limit).result with
  | error fault => simp [answered] at told
  | ok update =>
      rw [← named ticket last update answered]
      by_contra other
      simp [answered, other] at told

/-- What the completions tell that are gathered is what the last commands tell. -/
theorem news_eq_lastNews (commanded : Commanded hub buttons run notes) (one : run.OnePerDevice)
    (named : ∀ ticket ∈ lastTickets buttons, ∀ update,
      ((hub ticket).outcome ticket run.limit).result = .ok update → update.id = ticket.device)
    {completions : List Completion} (coming : ∀ completion ∈ completions, completion ∈ run.coming)
    (gathered : ∀ ticket ∈ run.desk.underWay,
      ticket.serial ∈ completions.map Completion.serial) :
    run.news completions = lastNews run.limit hub buttons := by
  funext id
  unfold lastNews
  cases found : (lastTickets buttons).find? fun ticket => ticket.device == id with
  | none =>
      have nothing : completions.filterMap (run.desk.stateTold? id) = [] := by
        rw [List.filterMap_eq_nil_iff]
        intro completion member
        by_contra something
        obtain ⟨ticket, last, device, -⟩ := commanded.last_of_stateTold? one.policy named
          (coming completion member) (Option.isSome_iff_ne_none.mpr something)
        have absent := List.find?_eq_none.mp found ticket last
        simp [device] at absent
      rw [news, nothing]
      rfl
  | some ticket =>
      have last := List.mem_of_find?_eq_some found
      have device : ticket.device = id := by simpa using List.find?_some found
      have underWay := (commanded.mem_underWay_iff one.policy).mpr last
      have inside : (hub ticket).outcome ticket run.limit ∈ completions := by
        obtain ⟨completion, member, same⟩ := List.mem_map.mp (gathered ticket underWay)
        rwa [← (commanded.own underWay).2 completion (coming completion member) same]
      have only : ∀ completion ∈ completions,
          (run.desk.stateTold? id completion).isSome = true →
            completion = (hub ticket).outcome ticket run.limit := by
        intro completion member told
        obtain ⟨other, otherLast, otherDevice, outcome⟩ :=
          commanded.last_of_stateTold? one.policy named (coming completion member) told
        have otherUnderWay := (commanded.mem_underWay_iff one.policy).mpr otherLast
        have same : other = ticket := List.inj_on_of_nodup_map one.devices otherUnderWay underWay
          (otherDevice.trans device.symm)
        rw [outcome, same]
      have isUnderWay : run.desk.isUnderWay ((hub ticket).outcome ticket run.limit).serial = true :=
        Switchboard.isUnderWay_of_mem underWay
      rw [news, getLast?_filterMap_of_only inside only,
        Switchboard.stateTold?_of_isUnderWay isUnderWay, Completion.stateOf?, Option.bind_some]
      cases answered : ((hub ticket).outcome ticket run.limit).result with
      | error fault => rfl
      | ok update => simp [named ticket last update answered, device]

/-- Gathering leaves nothing under way, and the board shows what the last commands tell. -/
theorem drain (commanded : Commanded hub buttons run notes) (one : run.OnePerDevice)
    (indexed : run.desk.board.Indexed) (distinct : run.desk.board.Distinct)
    (named : ∀ ticket ∈ lastTickets buttons, ∀ update,
      ((hub ticket).outcome ticket run.limit).result = .ok update → update.id = ticket.device) :
    ∃ final answers, run.drain = (final, answers, false) ∧ final.desk.underWay = [] ∧
      final.desk.board = run.desk.board.showing (lastNews run.limit hub buttons) := by
  obtain ⟨before, rest, final, parts, drained, shown, -, idle⟩ :=
    drain_of_coming commanded.untaken commanded.expected
  have once : run.AtMostOnce before := by
    intro serial underWay
    obtain ⟨ticket, inside, rfl⟩ := List.mem_map.mp (Switchboard.isUnderWay_iff.mp underWay)
    have single := (commanded.own inside).1
    rw [parts, List.map_append, List.count_append] at single
    omega
  have told : run.news before = lastNews run.limit hub buttons :=
    commanded.news_eq_lastNews one named (fun completion member => by simp [parts, member])
      fun ticket underWay => mem_of_idle (shown.desk ▸ idle) underWay
  refine ⟨final, _, drained, idle, ?_⟩
  rw [shown.desk, board_applyAll indexed distinct once, told]

end Commanded

/-- Gathering after the sending ends, and the board shows what the last commands tell. -/
theorem drain_of_sends {hub : Ticket → Response} {buttons : List Button}
    {operations : List Operation} (sends : Sends hub buttons operations) (limit : Nat)
    {devices : List Device} (distinct : (devices.map Device.id).Nodup)
    (named : ∀ ticket ∈ lastTickets buttons, ∀ update,
      ((hub ticket).outcome ticket limit).result = .ok update → update.id = ticket.device) :
    ∃ final answers, (((start .supersede limit).render devices).after operations).drain =
        (final, answers, false) ∧ final.desk.underWay = [] ∧
      final.desk.board = (Board.ofDevices devices).showing (lastNews limit hub buttons) := by
  have commanded := commanded_of_sends sends .supersede limit devices
  have one := onePerDevice_after limit (.once (.render devices) :: operations)
  have board : (((start .supersede limit).render devices).after operations).desk.board =
      Board.ofDevices devices :=
    (sent_of_sends sends _).board
  have sameLimit : (((start .supersede limit).render devices).after operations).limit = limit :=
    limit_after _ operations
  have gathered := commanded.drain one (board ▸ Board.indexed_ofDevices devices)
    (board ▸ Board.distinct_ofDevices distinct) (by rwa [sameLimit])
  rwa [board, sameLimit] at gathered

/-- When a new command replaces the earlier ones, two runs that send the same commands, over the
same board without repeated identifiers, end alike.  Their hubs may differ in any way on commands
that a later one for the same device follows, and the background may go on in any way in between;
they agree on the last command of each device, and an answer to it within the limit names its
device.  Gathering the completions then ends, with nothing under way, and on both boards each
device shows the state that its last command was answered with, or the one that it had. -/
theorem last_commands_decide_the_board (limit : Nat) (devices : List Device)
    (distinct : (devices.map Device.id).Nodup) (buttons : List Button)
    (hub other : Ticket → Response) (operations otherOperations : List Operation)
    (sends : Sends hub buttons operations) (otherSends : Sends other buttons otherOperations)
    (agree : ∀ ticket ∈ lastTickets buttons, hub ticket = other ticket)
    (named : ∀ ticket ∈ lastTickets buttons, ∀ update,
      ((hub ticket).outcome ticket limit).result = .ok update → update.id = ticket.device) :
    let filled := (start .supersede limit).render devices
    ∃ final otherFinal answers otherAnswers,
      (filled.after operations).drain = (final, answers, false) ∧
      (filled.after otherOperations).drain = (otherFinal, otherAnswers, false) ∧
      final.desk.underWay = [] ∧ otherFinal.desk.underWay = [] ∧
      otherFinal.desk.board = final.desk.board ∧
      final.desk.board = (Board.ofDevices devices).showing (lastNews limit hub buttons) := by
  intro filled
  have otherNamed : ∀ ticket ∈ lastTickets buttons, ∀ update,
      ((other ticket).outcome ticket limit).result = .ok update → update.id = ticket.device := by
    intro ticket last
    rw [← agree ticket last]
    exact named ticket last
  obtain ⟨final, answers, drained, idle, shows⟩ := drain_of_sends sends limit distinct named
  obtain ⟨otherFinal, otherAnswers, otherDrained, otherIdle, otherShows⟩ :=
    drain_of_sends otherSends limit distinct otherNamed
  refine ⟨final, otherFinal, answers, otherAnswers, drained, otherDrained, idle, otherIdle, ?_,
    shows⟩
  rw [shows, otherShows, lastNews_congr agree]

/-- The first command for the lamp is answered and waits in the queue when the last one is sent,
or it is never answered; the board ends the same. -/
theorem last_lamp_command_decides_the_board :
    let lamp (state : String) : Device := ⟨"lamp", "Lamp", "Light", state, ["on", "dim"]⟩
    let fan (state : String) : Device := ⟨"fan", "Fan", "Motor", state, ["spin"]⟩
    let buttons : List Button := [⟨"lamp", "on"⟩, ⟨"fan", "spin"⟩, ⟨"lamp", "dim"⟩]
    let answer (ticket : Ticket) : Response := ⟨some 3, .ok ⟨ticket.device, ticket.command⟩⟩
    let hub (ticket : Ticket) : Response :=
      if ticket.command = "on" then ⟨some 1, .ok ⟨"fan", "off"⟩⟩ else answer ticket
    let other (ticket : Ticket) : Response :=
      if ticket.command = "on" then ⟨none, .error (.timedOut none)⟩ else answer ticket
    let operations : List Operation := [.once (.dispatch hub "lamp" "on"), .once (.sleep 2),
      .once (.dispatch hub "fan" "spin"), .once (.dispatch hub "lamp" "dim")]
    let otherOperations : List Operation := [.once (.dispatch other "lamp" "on"),
      .once (.sleep 2), .once (.dispatch other "fan" "spin"),
      .once (.dispatch other "lamp" "dim"),
      .once (.straggle ⟨1, "lamp", "on", .ok ⟨"lamp", "on"⟩⟩)]
    let filled := (start .supersede 10).render [lamp "off", fan "still"]
    ([lamp "off", fan "still"].map Device.id).Nodup ∧
    Sends hub buttons operations ∧ Sends other buttons otherOperations ∧
    (∀ ticket ∈ lastTickets buttons, hub ticket = other ticket) ∧
    (∀ ticket ∈ lastTickets buttons, ∀ update,
      ((hub ticket).outcome ticket 10).result = .ok update → update.id = ticket.device) ∧
    (filled.after operations).drain.1.desk.board = Board.ofDevices [lamp "dim", fan "spin"] ∧
    (filled.after otherOperations).drain.1.desk.board =
      Board.ofDevices [lamp "dim", fan "spin"] := by
  intro lamp fan buttons answer hub other operations otherOperations filled
  have distinct : ([lamp "off", fan "still"].map Device.id).Nodup := by decide
  have last : lastTickets buttons = [⟨2, "fan", "spin"⟩, ⟨3, "lamp", "dim"⟩] := by decide
  have sends : Sends hub buttons operations :=
    .send _ (.wait rfl (.send _ (.send _ .none)))
  have otherSends : Sends other buttons otherOperations :=
    .send _ (.wait rfl (.send _ (.send _ (.wait rfl .none))))
  have agree : ∀ ticket ∈ lastTickets buttons, hub ticket = other ticket := by
    rw [last]
    simp [hub, other]
  have named : ∀ ticket ∈ lastTickets buttons, ∀ update,
      ((hub ticket).outcome ticket 10).result = .ok update → update.id = ticket.device := by
    rw [last]
    simp [hub, answer, Response.outcome]
  obtain ⟨final, otherFinal, answers, otherAnswers, drained, otherDrained, -, -, same, shows⟩ :=
    last_commands_decide_the_board 10 [lamp "off", fan "still"] distinct buttons hub other
      operations otherOperations sends otherSends agree named
  have shown : (Board.ofDevices [lamp "off", fan "still"]).showing (lastNews 10 hub buttons) =
      Board.ofDevices [lamp "dim", fan "spin"] := by decide
  have drainedBoard : (filled.after operations).drain.1.desk.board = final.desk.board :=
    congrArg (fun drained => drained.1.desk.board) drained
  have otherBoard : (filled.after otherOperations).drain.1.desk.board = otherFinal.desk.board :=
    congrArg (fun drained => drained.1.desk.board) otherDrained
  rw [drainedBoard, otherBoard, same, shows, shown]
  exact ⟨distinct, sends, otherSends, agree, named, rfl, rfl⟩

end Run

end DevicePanel
