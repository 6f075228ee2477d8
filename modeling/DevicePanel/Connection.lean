import DevicePanel.Hub.Client

/-!
# A connection to a hub

All that is needed to reach a hub and to run a switchboard over it.
-/

namespace DevicePanel

/-- How a hub is reached; times are in milliseconds. -/
structure Connection where
  url : Url
  token : Option String
  trust : Hub.Trust
  timeout : Nat
  dispatchTimeout : Nat
  policy : OverlapPolicy
  encoding : BodyEncoding
deriving Repr, DecidableEq

namespace Connection

/-- How long a request may take unless it is said otherwise. -/
def usualTimeout : Nat := 30000

/-- How long a command may take unless it is said otherwise. -/
def usualDispatchTimeout : Nat := 10000

/-- The connection to an address with all else as usual. -/
def ofUrl (url : Url) : Connection :=
  ⟨url, none, .system, usualTimeout, usualDispatchTimeout, .supersede, .json⟩

def client (connection : Connection) (certificates : Hub.Client.Certificates) :
    Except Hub.Fault Hub.Client :=
  Hub.Client.create certificates connection.url connection.token connection.trust
    connection.timeout connection.encoding

def run (connection : Connection) : Run := .start connection.policy connection.dispatchTimeout

end Connection

end DevicePanel
