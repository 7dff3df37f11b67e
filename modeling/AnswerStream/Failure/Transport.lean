import AnswerStream.Failure.Class

/-!
What goes wrong between the client and the server.
-/

namespace AnswerStream

inductive TransportError
  | connectionFailed (url message : String)
  | connectionReset (message : String)
  | timeout (message : String)
  | status (code : Nat) (message : String)
  | invalidUrl (url : String)
  | other (message : String)
  deriving DecidableEq, Repr

namespace TransportError

def errorClass : TransportError → ErrorClass
  | .connectionFailed _ _ | .connectionReset _ | .timeout _ => .transient
  | .status code _ => .ofStatus code
  | .invalidUrl _ | .other _ => .client

/-- The status, where the server answered at all. -/
def status? : TransportError → Option Nat
  | .status code _ => some code
  | _ => none

def code : TransportError → String
  | .connectionFailed _ _ => "E_NET_CONN"
  | .connectionReset _ => "E_NET_RESET"
  | .timeout _ => "E_NET_TIMEOUT"
  | .status _ _ => "E_NET_HTTP"
  | .invalidUrl _ => "E_NET_URL"
  | .other _ => "E_NET_OTHER"

def statusAdvice (code : Nat) : String :=
  if code = 400 then "The request was invalid."
  else if code = 401 then "Authentication failed. Token may be expired."
  else if code = 403 then "Access forbidden. Check your permissions."
  else if code = 404 then "The requested endpoint was not found."
  else if code = 429 then "Rate limit exceeded. Please wait and try again."
  else if 500 ≤ code ∧ code ≤ 599 then
    "The server is experiencing issues. Please try again later."
  else s!"The server returned an error (HTTP {code})."

/-- What a user is told. -/
def advice : TransportError → String
  | .connectionFailed _ _ =>
    "Unable to connect to the server. Please check your internet connection."
  | .connectionReset _ => "The connection was interrupted while receiving the answer."
  | .timeout _ => "The server took too long to respond. Please try again."
  | .status code _ => statusAdvice code
  | .invalidUrl url => s!"Invalid URL: {url}"
  | .other message => s!"Network error: {message}"

def message : TransportError → String
  | .connectionFailed url message => s!"Connection failed to '{url}': {message}"
  | .connectionReset message => s!"Connection reset: {message}"
  | .timeout message => s!"Request timeout: {message}"
  | .status code message => s!"HTTP {code} error: {message}"
  | .invalidUrl url => s!"Invalid URL: {url}"
  | .other message => s!"Transport error: {message}"

end TransportError
end AnswerStream
