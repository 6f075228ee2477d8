import DevicePanel.Proofs.Hub.Exchange
import DevicePanel.Proofs.Switchboard.Alone

/-!
# Commanding the hub

A button is pressed or a command is sent while nothing is under way, and its ticket is settled at
once.  Either the hub answers in time, with success and a complete answer for a device on the
board, and then one cell changes; or the command fails and no row does.
-/

namespace DevicePanel

open Hub

/-- What is asked for: the button at a place, or a command to a device. -/
inductive Order where
  | press (row index : Nat)
  | send (device command : String)

/-- The device and the command that an order comes to, if it comes to any. -/
def Order.target? (board : Board) : Order → Option (String × String)
  | .press row index =>
      (board.button? row index).map fun button => (button.device, button.command)
  | .send device command => some (device, command)

/-- Carry out an order and settle its ticket at once. -/
def Run.carryOut (run : Run) (respond : Ticket → Response) : Order → Run × Run.Settled
  | .press row index =>
      match run.activate respond row index with
      | (later, .ok ticket) => later.settle ticket
      | (later, .error fault) => (later, .answer (.error fault))
  | .send device command =>
      let (later, ticket) := run.dispatch respond device command
      later.settle ticket

theorem Run.carryOut_of_target? {run : Run} {order : Order} {device command : String}
    (target : order.target? run.desk.board = some (device, command))
    (respond : Ticket → Response) : run.carryOut respond order =
      (run.dispatch respond device command).1.settle (run.desk.nextTicket device command) := by
  cases order with
  | send sentTo name =>
      cases target
      rfl
  | press row index =>
      obtain ⟨button, found, same⟩ := Option.map_eq_some_iff.mp target
      cases same
      simp only [Run.carryOut, Run.activate, Switchboard.button, found]
      rfl

theorem Run.carryOut_of_target?_eq_none {run : Run} {order : Order}
    (none : order.target? run.desk.board = none) (respond : Ticket → Response) :
    ∃ row index, order = .press row index ∧
      run.carryOut respond order = (run, .answer (.error (.noButton row index))) := by
  cases order with
  | send sentTo name => cases none
  | press row index =>
      have missing : run.desk.board.button? row index = .none := Option.map_eq_none_iff.mp none
      refine ⟨row, index, rfl, ?_⟩
      simp only [Run.carryOut, Run.activate, Switchboard.button, missing]

theorem Response.result_outcome_eq_ok_iff {response : Response} {ticket : Ticket} {limit : Nat}
    {update : StateUpdate} : (response.outcome ticket limit).result = .ok update ↔
      (∃ delay, response.delay = some delay ∧ delay ≤ limit) ∧ response.result = .ok update := by
  obtain ⟨delay, result⟩ := response
  cases delay with
  | none => simp [outcome]
  | some delay => by_cases inTime : delay ≤ limit <;> simp [outcome, inTime]

namespace Hub.Client

/-- The hub tells an answer to a command, with success and within both limits. -/
def Answers (client : Client) (network : Network) (delay limit : Nat) (device command : String)
    (answer : Answer) : Prop :=
  client.base.isWeb ∧ delay ≤ client.timeout ∧ delay ≤ limit ∧
    ∃ document, (network (client.commandRequest device command)).Brings document ∧
      answer.ToldIn document

theorem answers_iff {client : Client} {network : Network} {delay limit : Nat}
    {device name : String} {answer : Answer} :
    client.Answers network delay limit device name answer ↔
      (client.commandAfter network delay device name).result = .ok answer ∧ delay ≤ limit := by
  rw [commandAfter, command_eq_ok_iff, Answers]
  by_cases inTime : delay ≤ client.timeout
  · rw [if_pos inTime]
    tauto
  · simp [inTime, Reply.Brings]

theorem result_respondAfter_eq_ok_iff {client : Client} {network : Network} {delay limit : Nat}
    {ticket : Ticket} {update : StateUpdate} :
    ((client.respondAfter network delay ticket).outcome ticket limit).result = .ok update ↔
      ∃ answer, client.Answers network delay limit ticket.device ticket.command answer ∧
        answer.toUpdate = update := by
  simp only [Response.result_outcome_eq_ok_iff, answers_iff, respondAfter]
  cases (client.commandAfter network delay ticket.device ticket.command).result with
  | error fault => simp
  | ok answer => simp

theorem sent_commandAfter (client : Client) (network : Network) (delay : Nat)
    (device name : String) : (client.commandAfter network delay device name).sent =
      if client.base.isWeb then [client.commandRequest device name] else [] :=
  client.sent_command _ device name

end Hub.Client

namespace Run

/-- While nothing is under way and nobody else waits for completions, an order is carried out and
settled at once.  A row is patched exactly if a command was sent, the hub answers it within both
limits, with success and a document that tells an identifier and a state, and the board shows that
identifier.  Then the state in its row becomes the one told and nothing else on the board changes.
In every other case there is a fault and the board is as before.  In no case is anything under way
afterwards.  For each command that is sent one request is sent, a `POST`, if the client's address
is one of the web; where no button is pressed nothing is sent and the run is as before. -/
theorem order_patches_one_cell_or_nothing (policy : OverlapPolicy) (limit : Nat)
    (operations : List Operation) (client : Client) (network : Network) (delay : Nat)
    (order : Order) (idle : ((start policy limit).after operations).desk.underWay = [])
    (untaken : ((start policy limit).after operations).taken = false) :
    let run := (start policy limit).after operations
    let board := run.desk.board
    let carried := run.carryOut (client.respondAfter network delay) order
    ((∃ place update, carried.2 = .answer (.ok (.patched place update))) ↔
      ∃ device command answer, order.target? board = some (device, command) ∧
        client.Answers network delay limit device command answer ∧
        ∃ place row, board.deviceRow? place = some row ∧ row.id = answer.id.toText) ∧
    (∀ place update, carried.2 = .answer (.ok (.patched place update)) →
      ∃ device command answer row, order.target? board = some (device, command) ∧
        client.Answers network delay limit device command answer ∧
        update = ⟨answer.id.toText, answer.state.toText⟩ ∧
        board.deviceRow? place = some row ∧ row.id = answer.id.toText ∧
        board.FirstAt place answer.id.toText ∧
        carried.1.desk.board = { board with
          rows := board.rows.set place (.device { row with state := answer.state.toText }) }) ∧
    ((∀ place update, carried.2 ≠ .answer (.ok (.patched place update))) →
      (∃ fault, carried.2 = .answer (.error fault)) ∧ carried.1.desk.board = board) ∧
    carried.1.desk.underWay = [] ∧
    (∀ device command, order.target? board = some (device, command) →
      carried.1.desk.issued = run.desk.issued + 1 ∧
      (client.commandRequest device command).method = .post ∧
      (client.commandAfter network delay device command).sent =
        if client.base.isWeb then [client.commandRequest device command] else []) ∧
    (order.target? board = none →
      (∃ row index, order = .press row index ∧
        carried.2 = .answer (.error (.noButton row index))) ∧ carried.1 = run) := by
  intro run board carried
  have placed := placed_after policy limit operations
  have indexed : board.Indexed := indexed_after policy limit operations
  have sameLimit : run.limit = limit := limit_after (start policy limit) operations
  cases target : order.target? board with
  | none =>
      obtain ⟨row, index, pressed, nothing⟩ :=
        carryOut_of_target?_eq_none target (client.respondAfter network delay)
      have answer : carried.2 = .answer (.error (.noButton row index)) := congrArg Prod.snd nothing
      have same : carried.1 = run := congrArg Prod.fst nothing
      rw [answer, same]
      refine ⟨by simp, by simp, fun _ => ⟨⟨_, rfl⟩, rfl⟩, idle, by simp, ?_⟩
      exact fun _ => ⟨⟨row, index, pressed, rfl⟩, rfl⟩
  | some sentTo =>
      obtain ⟨device, command⟩ := sentTo
      have sent : carried = _ := carryOut_of_target? target (client.respondAfter network delay)
      have told_iff (update : StateUpdate) :
          ((client.respondAfter network delay (run.desk.nextTicket device command)).outcome
            (run.desk.nextTicket device command) run.limit).result = .ok update ↔
          ∃ answer, client.Answers network delay limit device command answer ∧
            answer.toUpdate = update := by
        rw [sameLimit]
        exact Client.result_respondAfter_eq_ok_iff
      obtain ⟨later, ⟨update, place, row, told, found, same, first, settled, desk⟩ |
          ⟨fault, unknown, settled, desk⟩⟩ :=
        settle_alone_cases placed indexed idle untaken (client.respondAfter network delay) device
          command
      · rw [settled] at sent
        rw [sent, desk]
        obtain ⟨answer, answers, rfl⟩ := (told_iff update).mp told
        refine ⟨⟨fun _ => ?_, fun _ => ⟨place, _, rfl⟩⟩, ?_, ?_, idle, ?_, by simp⟩
        · exact ⟨device, command, answer, rfl, answers, place, row, found, same⟩
        · rintro _ _ ⟨⟩
          exact ⟨device, command, answer, row, rfl, answers, rfl, found, same, first, rfl⟩
        · exact fun unpatched => absurd rfl (unpatched place answer.toUpdate)
        · rintro _ _ ⟨⟩
          exact ⟨rfl, rfl, client.sent_commandAfter network delay device command⟩
      · rw [settled] at sent
        rw [sent, desk]
        refine ⟨⟨by simp, ?_⟩, by simp, fun _ => ⟨⟨fault, rfl⟩, rfl⟩, idle, ?_, by simp⟩
        · rintro ⟨_, _, answer, ⟨⟩, answers, place, row, found, same⟩
          have told := (told_iff answer.toUpdate).mpr ⟨answer, answers, rfl⟩
          exact absurd same (unknown _ told place row found)
        · rintro _ _ ⟨⟩
          exact ⟨rfl, rfl, client.sent_commandAfter network delay device command⟩

theorem order_switches_lamp_or_nothing :
    let lamp : Device := ⟨"7", "Lamp", "Light", "off", ["on"]⟩
    let client : Client :=
      ⟨⟨"http".toList, ⟨[], []⟩, some (.domain "hub".toList), none, .segments [[]], none, none⟩,
        none, 30, .json⟩
    let body := "\x7b\"id\":7,\"state\":\"on\"\x7d"
    let hub : Network := fun _ => .answered 200 (body.toList.map Char.toNat)
    let operations : List Operation := [.once (.render [lamp])]
    let run := (start .supersede 10).after operations
    let patched := run.carryOut (client.respondAfter hub 3) (.press 1 0)
    let failed := run.carryOut (client.respondAfter (fun _ => .refused) 3) (.press 1 0)
    run.desk.underWay = [] ∧ run.taken = false ∧
    (∃ place update, patched.2 = .answer (.ok (.patched place update))) ∧
    (∃ fault, failed.2 = .answer (.error fault)) ∧ failed.1.desk.board = run.desk.board := by
  intro lamp client body hub operations run patched failed
  have idle : run.desk.underWay = [] := rfl
  have untaken : run.taken = false := rfl
  obtain ⟨patched_iff, -⟩ := order_patches_one_cell_or_nothing .supersede 10 operations client hub
    3 (.press 1 0) idle untaken
  obtain ⟨refused_iff, -, kept, -⟩ := order_patches_one_cell_or_nothing .supersede 10 operations
    client (fun _ => .refused) 3 (.press 1 0) idle untaken
  have read : Json.read RawAnswer.decoder body = .ok ⟨some (.number 7), some (.text "on")⟩ :=
    Json.toOption_eq_some_iff.mp (by decide +kernel)
  have brings : Reply.Brings (.answered 200 (body.toList.map Char.toNat)) body :=
    ⟨200, _, rfl, by decide, by decide, by decide +kernel⟩
  have answers : client.Answers hub 3 10 "7" "on" ⟨.number 7, .text "on"⟩ :=
    ⟨rfl, by decide, by decide, body, brings, Answer.exists_complete_iff.mp ⟨_, read, rfl⟩⟩
  refine ⟨idle, untaken, ?_, ?_⟩
  · exact patched_iff.mpr ⟨"7", "on", _, rfl, answers, 1, .ofDevice lamp, rfl, by decide +kernel⟩
  · apply kept
    intro place update wasPatched
    obtain ⟨_, _, _, -, ⟨-, -, -, _, ⟨_, _, impossible, -⟩, -⟩, -⟩ :=
      refused_iff.mp ⟨place, update, wasPatched⟩
    cases impossible

end Run

end DevicePanel
