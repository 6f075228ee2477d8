import DevicePanel.Device

/-!
# Why a listing or a command failed
-/

namespace DevicePanel

/-- The devices could not be listed; the board stays empty. -/
inductive ListingFault where
  | unreachable (url reason : String)
  | timedOut
  | status (code : Nat) (body : String)
  | malformed (reason : String)
  | duplicateId (id : String)
  | misconfigured (reason : String)
deriving Repr, DecidableEq, Inhabited

namespace ListingFault

def message : ListingFault → String
  | .unreachable url reason => "Cannot reach device backend at " ++ url ++ ": " ++ reason
  | .timedOut => "Device listing timed out"
  | .status code _ => "Backend rejected the device listing with HTTP " ++ toString code
  | .malformed reason => "Malformed device listing: " ++ reason
  | .duplicateId id => "Device listing contains id " ++ id ++ " more than once"
  | .misconfigured reason => "Configuration error: " ++ reason

end ListingFault

/-- A command failed; the row keeps the state it had. -/
inductive CommandFault where
  | unreachable (url reason : String)
  /-- No answer came within so many milliseconds, or before the connection gave up. -/
  | timedOut (milliseconds : Option Nat)
  | status (code : Nat) (body : String)
  | malformed (reason : String)
  | unknownDevice (id : String)
  | noButton (row index : Nat)
  /-- A newer command for the same device replaced this one, or it was called off. -/
  | superseded (id command : String)
  | misconfigured (reason : String)
deriving Repr, DecidableEq, Inhabited

namespace CommandFault

def message : CommandFault → String
  | .unreachable url reason => "Cannot reach device backend at " ++ url ++ ": " ++ reason
  | .timedOut _ => "Command timed out"
  | .status code _ => "Backend rejected the command with HTTP " ++ toString code
  | .malformed reason => "Malformed command response: " ++ reason
  | .unknownDevice id => "Backend reported state for unknown device " ++ id
  | .noButton row index =>
      "No command at row " ++ toString row ++ ", position " ++ toString index
  | .superseded id command => "Command " ++ command ++ " on device " ++ id ++ " was superseded"
  | .misconfigured reason => "Configuration error: " ++ reason

/-- The hub was never reached or never answered. -/
def isTransport : CommandFault → Bool
  | .unreachable .. | .timedOut _ => true
  | _ => false

end CommandFault

end DevicePanel
