import DevicePanel.Console.Connect
import DevicePanel.Console.Report
import DevicePanel.Console.Surroundings
import DevicePanel.Console.Upkeep

/-!
# An invocation from its words to what it leaves behind

Devices are listed or commanded, or the settings are looked after.
-/

namespace DevicePanel.Console

def listOrder : String := "devices list"

def listDevices (options : Options) (surroundings : Surroundings) (client : Hub.Client) :
    Outcome :=
  let outcome : Outcome := match Listing.ofSource (client.devices surroundings.network) with
    | .error fault => .failed (.ofListing fault)
    | .ok [] =>
        if options.output = .table then
          if options.quiet then .nothing else .ofRemark "No devices reported by the backend."
        else .shown options.quiet (listing options.output [] false)
    | .ok devices =>
        let colour := options.colouring.isOn surroundings.terminal surroundings.environment
        .shown options.quiet (listing options.output devices colour)
  { outcome with sent := (client.list surroundings.network).sent }

/-- What comes of pressing a button: the ticket of the command if one was sent, and the row of the
device with its new state. -/
structure Pressed where
  ticket : Option Ticket
  result : Except Fault (Board.DeviceRow × StateUpdate)

def awaitAnswer (run : Run) (ticket : Ticket) : Except Fault (Board.DeviceRow × StateUpdate) :=
  match run.settle ticket with
  | (later, .answer (.ok (.patched place update))) =>
      match later.desk.board.deviceRow? place with
      | some row => .ok (row, update)
      | none => .error (.notFound "Device" update.id listOrder)
  | (_, .answer (.ok .discarded)) | (_, .blocks) =>
      .error (.superseded ticket.device ticket.command)
  | (_, .answer (.error fault)) => .error (.ofCommand fault)

def press (respond : Ticket → Response) (run : Run) (device command : String) : Pressed :=
  match run.desk.board.place? device with
  | none => ⟨none, .error (.notFound "Device" device listOrder)⟩
  | some row =>
      let offered := ((run.desk.board.find? device).map Board.DeviceRow.buttons).getD []
      match offered.findIdx? fun button => button.command == command with
      | none =>
          let available := Fault.namesOrNone (offered.map Button.command)
          ⟨none, .error (.unknownCommand device command available)⟩
      | some index =>
          match run.activate respond row index with
          | (_, .error fault) => ⟨none, .error (.ofCommand fault)⟩
          | (later, .ok ticket) => ⟨some ticket, awaitAnswer later ticket⟩

/-- Send a command to a device and show the state that it leads to.  The hub takes so many
milliseconds for the command. -/
def commandDeviceAfter (delay : Nat) (options : Options) (surroundings : Surroundings)
    (connection : Connection) (client : Hub.Client) (device command : String) : Outcome :=
  let network := surroundings.network
  let listing := (client.list network).sent
  match connection.run.load (client.devices network) with
  | (_, .error fault) => { Outcome.failed (.ofListing fault) with sent := listing }
  | (run, .ok _) =>
      let pressed := press (client.respondAfter network delay) run device command
      let outcome : Outcome := match pressed.result with
        | .error fault => .failed fault
        | .ok (row, update) => .shown options.quiet (stateReport options.output row update)
      let commands := pressed.ticket.toList.flatMap fun ticket =>
        (client.commandAfter network delay ticket.device ticket.command).sent
      { outcome with sent := listing ++ commands }

/-- Send a command to a device of a hub that answers at once or never. -/
def commandDevice (options : Options) (surroundings : Surroundings) (connection : Connection)
    (client : Hub.Client) (device command : String) : Outcome :=
  commandDeviceAfter 0 options surroundings connection client device command

def withHub (options : Options) (surroundings : Surroundings)
    (work : Connection → Hub.Client → Outcome) : Outcome :=
  match connection options surroundings.home surroundings.file surroundings.environment
      surroundings.keyring with
  | .error fault => .failed fault
  | .ok connection =>
      match connection.client surroundings.certificates with
      | .error fault => .failed (.ofListing fault.toListingFault)
      | .ok client => work connection client

/-- Obey an order.  Completions are made by the shell's own tools. -/
def Order.obey (order : Order) (options : Options) (surroundings : Surroundings) : Outcome :=
  match order with
  | .settings order => order.obey options surroundings
  | .completions _ => .nothing
  | .list => withHub options surroundings fun _ => listDevices options surroundings
  | .command device name =>
      withHub options surroundings fun connection client =>
        commandDevice options surroundings connection client device name

def run (surroundings : Surroundings) (words : List String) :
    Except CommandLine.Refusal Outcome :=
  (understand surroundings.environment words).map fun (options, order) =>
    order.obey options surroundings

end DevicePanel.Console
