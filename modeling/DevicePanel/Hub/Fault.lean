import DevicePanel.Fault
import DevicePanel.Url

/-!
# Why an exchange with the hub failed

An exchange can fail before a request is sent, on its way, by its status, or by what it
brings.  Each failure becomes a fault of the listing or of the command that needed it.
-/

namespace DevicePanel.Hub

/-- How a request failed on its way. -/
inductive Transport where
  | refused
  | timedOut
  /-- The address is none that a request can be sent to. -/
  | unsupported
deriving Repr, DecidableEq, Inhabited

inductive Fault where
  | transport (kind : Transport) (url : String)
  | badUrl (fault : Url.Fault)
  /-- A URL without a path of segments. -/
  | badBase (url : String)
  | trust (reason : String)
  | badHeader (reason : String)
  | status (code : Nat) (body : String)
  | undecodable (reason body : String)
  | malformed (reason : String)
deriving Repr, DecidableEq, Inhabited

namespace Fault

def transportReason (kind : Transport) (url : String) : String :=
  (match kind with
   | .unsupported => "builder error for url ("
   | .refused | .timedOut => "error sending request for url (") ++ url ++ ")"

def message : Fault → String
  | .transport kind url => "HTTP transport error: " ++ transportReason kind url
  | .badUrl fault => "Invalid URL: " ++ fault.message
  | .badBase url => "Base URL cannot be used for API requests: " ++ url
  | .trust reason => "TLS error: " ++ reason
  | .badHeader reason => "Invalid header value: " ++ reason
  | .status code _ => "Backend returned HTTP " ++ toString code
  | .undecodable reason _ => "Deserialization error: " ++ reason
  | .malformed reason => "Malformed response: " ++ reason

/-- The status that the hub answered with, if it answered with a bad one. -/
def status? : Fault → Option Nat
  | .status code _ => some code
  | _ => none

/-- Trying again may help. -/
def isTransient : Fault → Bool
  | .transport .refused _ | .transport .timedOut _ => true
  | .status code _ => 500 ≤ code
  | _ => false

def isTimeout : Fault → Bool
  | .transport .timedOut _ => true
  | _ => false

def isNotFound : Fault → Bool
  | .status 404 _ => true
  | _ => false

/-- What a fault comes down to for whoever needed the exchange. -/
inductive Cause where
  | unreachable (url reason : String)
  | timedOut
  | status (code : Nat) (body : String)
  | malformed (reason : String)
  | misconfigured (reason : String)
deriving Repr, DecidableEq

def cause : Fault → Cause
  | .transport .timedOut _ => .timedOut
  | .transport kind url => .unreachable url (transportReason kind url)
  | .status code body => .status code body
  | .undecodable reason _ => .malformed reason
  | .malformed reason => .malformed reason
  | .badHeader reason => .misconfigured reason
  | .badUrl fault => .misconfigured ("Invalid URL: " ++ fault.message)
  | .badBase url => .misconfigured ("Base URL cannot be used for API requests: " ++ url)
  | .trust reason => .misconfigured ("TLS error: " ++ reason)

def toListingFault (fault : Fault) : ListingFault :=
  match fault.cause with
  | .unreachable url reason => .unreachable url reason
  | .timedOut => .timedOut
  | .status code body => .status code body
  | .malformed reason => .malformed reason
  | .misconfigured reason => .misconfigured reason

def toCommandFault (fault : Fault) : CommandFault :=
  match fault.cause with
  | .unreachable url reason => .unreachable url reason
  | .timedOut => .timedOut none
  | .status code body => .status code body
  | .malformed reason => .malformed reason
  | .misconfigured reason => .misconfigured reason

end Fault

end DevicePanel.Hub
