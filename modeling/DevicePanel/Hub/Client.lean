import DevicePanel.Hub.Entry
import DevicePanel.Hub.Fault
import DevicePanel.Policy
import DevicePanel.Switchboard.Run
import DevicePanel.Url.Form
import DevicePanel.Url.Reader

/-!
# Talking to the hub

The hub lists its devices under `api/devices` and takes commands under `api/device/` and the
device's identifier, below the path of its address.  The network is a function from requests
to replies.
-/

/-! ## The programs -/

namespace DevicePanel.Program

/-- The name of the command-line program, under which requests are sent as well. -/
def name : String := "devgrid"

def dashboardName : String := "devgrid-tui"

def version : String := "0.1.0"

end DevicePanel.Program

/-! ## Bytes as letters -/

namespace DevicePanel.Text.Base64

def digits : List Char :=
  "ABCDEFGHIJKLMNOPQRSTUVWXYZabcdefghijklmnopqrstuvwxyz0123456789+/".toList

def digit (n : Nat) : Char := digits.getD (n % 64) 'A'

/-- Three bytes are written as four characters; equals signs fill up the last four. -/
def encode : List Nat → List Char
  | a :: b :: c :: rest =>
      digit (a / 4) :: digit (a * 16 + b / 16) :: digit (b * 4 + c / 64) :: digit c :: encode rest
  | [a, b] => [digit (a / 4), digit (a * 16 + b / 16), digit (b * 4), '=']
  | [a] => [digit (a / 4), digit (a * 16), '=', '=']
  | [] => []

end DevicePanel.Text.Base64

/-! ## Requests and replies -/

namespace DevicePanel.Hub

/-- How the hub's certificate is checked. -/
inductive Trust where
  | system
  | certificate (path : String)
  | anyCertificate
deriving Repr, DecidableEq, Inhabited

inductive Method where
  | get
  | post
deriving Repr, DecidableEq

namespace Method

def name : Method → String
  | .get => "GET"
  | .post => "POST"

end Method

structure Request where
  method : Method
  url : Url
  authorization : Option String
  contentType : Option String
  body : Option String
deriving Repr, DecidableEq

namespace Request

def target (request : Request) : String :=
  String.ofList (request.url.target.write ++
    (match request.url.query with
     | some query => '?' :: query
     | none => []))

end Request

def userAgent : String := Program.name ++ "/" ++ Program.version

/-- What becomes of a request. -/
inductive Reply where
  | refused
  /-- The hub takes the request and never answers. -/
  | silent
  | answered (status : Nat) (body : List Nat)
deriving Repr, DecidableEq, Inhabited

/-- The network, as far as one hub is concerned. -/
abbrev Network := Request → Reply

/-- A client of one hub. -/
structure Client where
  base : Url
  token : Option String
  /-- How long a request may take, in milliseconds. -/
  timeout : Nat
  encoding : BodyEncoding
deriving Repr, DecidableEq

/-- What came of an exchange, and the requests that were sent for it. -/
structure Exchange (α : Type) where
  sent : List Request
  result : Except Fault α

namespace Client

/-- A text may stand in a header: no control characters but the tab. -/
def isHeaderText (text : String) : Bool :=
  text.toList.all fun c => c = '\t' || (0x20 ≤ c.toNat && c.toNat ≠ 0x7F)

/-- Reading a certificate: nothing, or why it cannot be read. -/
abbrev Certificates := String → Except String Unit

/-- A client, if its token, its certificate and its address can be used. -/
def create (certificates : Certificates) (base : Url) (token : Option String) (trust : Trust)
    (timeout : Nat) (encoding : BodyEncoding) : Except Fault Client := do
  if !(token.all isHeaderText) then
    throw (.badHeader "bearer token contains invalid characters")
  match trust with
  | .certificate path =>
      match certificates path with
      | .ok () => pure ()
      | .error reason => throw (.trust ("failed to read CA cert: " ++ reason))
  | .system | .anyCertificate => pure ()
  if base.canBeBase then pure ⟨base, token, timeout, encoding⟩
  else throw (.badBase base.toText)

/-- The address of segments below the path of the client's own one, which has to be a path that
segments can be added to. -/
def place? (client : Client) (segments : List String) : Except Fault Url :=
  match client.base.target with
  | .opaquePath _ => .error (.badBase client.base.toText)
  | .segments _ =>
      .ok ((("api" :: segments).map String.toList).foldl (fun url segment => url.push segment)
        client.base.popEmpty)

/-- Where a request for segments goes.  No client is made of an address that nothing can be added
to, so that this is always a place below it. -/
def place (client : Client) (segments : List String) : Url :=
  match client.place? segments with
  | .ok url => url
  | .error _ => client.base

/-- What the hub knows the client by: the user of its address, else the token. -/
def authorization (client : Client) : Option String :=
  let user := client.base.user
  if user.name.isEmpty && user.password.isEmpty then
    client.token.map fun token => "Bearer " ++ token
  else
    some ("Basic " ++ String.ofList (Text.Base64.encode
      (Url.Percent.decodeBytes user.name ++ ':'.toNat :: Url.Percent.decodeBytes user.password)))

/-- A request without a body. -/
def get (client : Client) (segments : List String) : Request :=
  ⟨.get, (client.place segments).withoutUser, client.authorization, none, none⟩

def commandBody (encoding : BodyEncoding) (command : String) : String :=
  match encoding with
  | .json => (CommandBody.mk command).toJson.compactText
  | .form => String.ofList (Url.Form.encodePairs [("command".toList, command.toList)])

def contentType : BodyEncoding → String
  | .json => "application/json"
  | .form => "application/x-www-form-urlencoded"

def listRequest (client : Client) : Request := client.get ["devices"]

def commandRequest (client : Client) (device command : String) : Request :=
  { client.get ["device", device] with
    method := .post
    contentType := some (contentType client.encoding)
    body := some (commandBody client.encoding command) }

def exchange {α : Type} (network : Network) (decoder : Json.Decoder α) (request : Request) :
    Exchange α :=
  let url := request.url.toText
  if !request.url.isWeb then ⟨[], .error (.transport .unsupported url)⟩
  else
    match network request with
    | .refused => ⟨[request], .error (.transport .refused url)⟩
    | .silent => ⟨[request], .error (.transport .timedOut url)⟩
    | .answered status bytes =>
        let body := String.ofList (Text.Utf8.decodeLossy bytes)
        if status < 200 ∨ 300 ≤ status then ⟨[request], .error (.status status body)⟩
        else
          match Json.read decoder body with
          | .ok value => ⟨[request], .ok value⟩
          | .error fault => ⟨[request], .error (.undecodable (fault.message body) body)⟩

/-- The hub's devices, in its order. -/
def list (client : Client) (network : Network) : Exchange (List Entry) :=
  exchange network Entry.listDecoder client.listRequest

def complete (answer : RawAnswer) : Except Fault Answer :=
  match answer.id, answer.state with
  | some id, some state => .ok ⟨id, state⟩
  | none, _ => .error (.malformed "command response is missing `id`")
  | some _, none => .error (.malformed "command response is missing `state`")

def command (client : Client) (network : Network) (device command : String) :
    Exchange Answer :=
  let raw := exchange network RawAnswer.decoder (client.commandRequest device command)
  ⟨raw.sent, raw.result.bind complete⟩

def devices (client : Client) (network : Network) : Except ListingFault (List Device) :=
  match (client.list network).result with
  | .ok entries => .ok (entries.map Entry.toDevice)
  | .error fault => .error fault.toListingFault

/-- The exchange for a command with a hub that takes so many milliseconds.  What would come after
the client's timeout does not count. -/
def commandAfter (client : Client) (network : Network) (delay : Nat) (device command : String) :
    Exchange Answer :=
  client.command (if delay ≤ client.timeout then network else fun _ => .silent) device command

/-- After how many milliseconds a fault is known. -/
def faultDelay (client : Client) (delay : Nat) (fault : Fault) : Nat :=
  match fault with
  | .transport .timedOut _ => client.timeout
  | .transport .unsupported _ => 0
  | _ => delay

/-- The response to a ticket by a hub that takes so many milliseconds. -/
def respondAfter (client : Client) (network : Network) (delay : Nat) (ticket : Ticket) : Response :=
  match (client.commandAfter network delay ticket.device ticket.command).result with
  | .ok answer => ⟨some delay, .ok answer.toUpdate⟩
  | .error fault => ⟨some (client.faultDelay delay fault), .error fault.toCommandFault⟩

/-- The response to a ticket by a hub that answers at once or never. -/
def respond (client : Client) (network : Network) (ticket : Ticket) : Response :=
  client.respondAfter network 0 ticket

end Client

end DevicePanel.Hub
