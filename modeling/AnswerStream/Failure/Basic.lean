import AnswerStream.Failure.Transport

/-!
The one failure that a call reports, its class, and its wording. `Failure.ofTransport` singles out
the two statuses that mean a rejected token; `Failure.malformed` keeps only the first characters of
the payload that it shows.
-/

namespace AnswerStream

/-- Why a frame, a line or a page cannot be read. -/
inductive Flaw
  | notJson
  | blockNotObject
  | diffWithoutField
  | diffWithoutPatches
  | unsupportedPatch
  | invalidUtf8
  | lineTooLong (limit : Nat)
  | notPage
  | stated (reason : String)
  deriving DecidableEq, Repr

def Flaw.message : Flaw → String
  | .notJson => "not a message in JSON"
  | .blockNotObject => "block is not an object"
  | .diffWithoutField => "diff_block without field"
  | .diffWithoutPatches => "diff_block without patches"
  | .unsupportedPatch => "unsupported patch operation"
  | .invalidUtf8 => "invalid UTF-8"
  | .lineTooLong limit => s!"line exceeds {limit} bytes"
  | .notPage => "invalid thread page: not a list of entries in JSON"
  | .stated reason => reason

inductive Failure
  | malformedFrame (flaw : Flaw) (excerpt : String)
  | incompleteStream
  | noAnswer
  | authentication (status : Nat) (message : String)
  | retryExhausted (attempts : Nat) (source : Failure)
  | cancelled
  | transport (error : TransportError)
  | invalidRequest (message : String)
  deriving DecidableEq, Repr

namespace Failure

def excerptLimit : Nat := 100

/-- The first characters of a payload. -/
def excerpt (payload : String) : String := String.ofList (payload.toList.take excerptLimit)

def malformed (flaw : Flaw) (payload : String) : Failure := .malformedFrame flaw (excerpt payload)

def ofTransport : TransportError → Failure
  | .status code message =>
    if code = 401 ∨ code = 403 then .authentication code message
    else .transport (.status code message)
  | error => .transport error

def errorClass : Failure → ErrorClass
  | .malformedFrame _ _ | .incompleteStream => .transient
  | .noAnswer => .client
  | .authentication _ _ => .auth
  | .retryExhausted _ _ => .client
  | .cancelled => .client
  | .transport error => error.errorClass
  | .invalidRequest _ => .client

/-- Whether a new token is needed before the call can succeed. -/
def requiresReauth : Failure → Bool
  | .authentication _ _ => true
  | .retryExhausted _ source => source.requiresReauth
  | _ => false

def code : Failure → String
  | .malformedFrame _ _ => "E_PROTO_FRAME"
  | .incompleteStream => "E_PROTO_INCOMPLETE"
  | .noAnswer => "E_PROTO_NO_ANSWER"
  | .authentication _ _ => "E_PROTO_AUTH"
  | .retryExhausted _ _ => "E_PROTO_RETRY"
  | .cancelled => "E_PROTO_CANCEL"
  | .transport error => error.code
  | .invalidRequest _ => "E_PROTO_REQUEST"

def message : Failure → String
  | .malformedFrame flaw excerpt => s!"malformed frame ({flaw.message}): {excerpt}"
  | .incompleteStream => "stream ended before a terminal message"
  | .noAnswer => "stream completed without an answer"
  | .authentication status message => s!"authentication failed (HTTP {status}): {message}"
  | .retryExhausted attempts source => s!"giving up after {attempts} attempts: {source.message}"
  | .cancelled => "request cancelled"
  | .transport error => error.message
  | .invalidRequest message => s!"invalid request: {message}"

/-- What a user is told. -/
def advice : Failure → String
  | .malformedFrame _ _ => "Received invalid data from the server. Please try again."
  | .incompleteStream => "The server closed the connection before the answer was complete."
  | .noAnswer => "The server finished without producing an answer."
  | .authentication _ _ => "Authentication failed. Token may be invalid or expired."
  | .retryExhausted attempts source => s!"{source.advice} (gave up after {attempts} attempts)"
  | .cancelled => "The request was cancelled."
  | .transport error => error.advice
  | .invalidRequest message => s!"The request was invalid: {message}"

/-- The failure that this one reports the repetition of. -/
def source? : Failure → Option Failure
  | .retryExhausted _ source => some source
  | _ => none

end Failure
end AnswerStream
