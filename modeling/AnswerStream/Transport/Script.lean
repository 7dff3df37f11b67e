import AnswerStream.Transport.Basic

/-!
A transport that answers from scripts. The replies for a URL queue up, and the last of them is given
again and again. Every request is recorded.
-/

namespace AnswerStream

inductive ScriptedReply
  | whole (response : Response)
  | refused (error : TransportError)
  | streamed (parts : List (List UInt8))
  /-- Parts of a body, and then its failure. -/
  | broken (parts : List (List UInt8)) (error : TransportError)
  /-- Parts of a body, and then nothing ever again. -/
  | stalled (parts : List (List UInt8))
  deriving DecidableEq, Repr

namespace ScriptedReply

def ofStatus (status : Nat) : ScriptedReply := .refused (.status status s!"HTTP {status}")

def ofText (text : String) : ScriptedReply := .streamed [Utf8.encode text]

def atOnce (parts : List (List UInt8)) : List (Duration × Arrival) :=
  parts.map fun bytes => (.zero, .chunk bytes)

/-- The reply to a request for a whole response. -/
def toResponse : ScriptedReply → Except TransportError Response
  | .whole response => .ok response
  | .refused error => .error error
  | .streamed _ | .broken _ _ | .stalled _ =>
    .error (.other "Stream response on non-stream request")

/-- The reply to a request for a body in pieces. -/
def toBody : ScriptedReply → Except TransportError Body
  | .streamed parts => .ok ⟨atOnce parts, .closes .zero⟩
  | .broken parts error => .ok ⟨atOnce parts ++ [(.zero, .failure error)], .closes .zero⟩
  | .stalled parts => .ok ⟨atOnce parts, .never⟩
  | .refused error => .error error
  | .whole _ => .error (.other "Non-stream response on stream request")

end ScriptedReply

structure Script where
  queues : List (String × List ScriptedReply)
  /-- The latest first. -/
  requests : List Request
  deriving DecidableEq, Repr

namespace Script

def empty : Script := ⟨[], []⟩

def queue (s : Script) (url : String) : List ScriptedReply := (s.queues.lookup url).getD []

def setQueue (s : Script) (url : String) (replies : List ScriptedReply) : Script :=
  { s with queues := Json.Members.insert url replies s.queues }

/-- Replaces all replies for a URL. -/
def set (s : Script) (url : String) (reply : ScriptedReply) : Script := s.setQueue url [reply]

/-- Queues a reply behind those that the URL has. -/
def push (s : Script) (url : String) (reply : ScriptedReply) : Script :=
  s.setQueue url (s.queue url ++ [reply])

def clear (s : Script) : Script := { s with requests := [] }

/-- The reply at the head of a queue and the queue afterwards; the last reply stays. -/
def advance : List ScriptedReply → Option ScriptedReply × List ScriptedReply
  | [] => (none, [])
  | [reply] => (some reply, [reply])
  | reply :: rest => (some reply, rest)

/-- Records the request and takes its reply. -/
def take (s : Script) (r : Request) : Script × Except TransportError ScriptedReply :=
  let s := { s with requests := r :: s.requests }
  match advance (s.queue r.url) with
  | (some reply, rest) => (s.setQueue r.url rest, .ok reply)
  | (none, _) => (s, .error (.other s!"No mock response for URL: {r.url}"))

def transport : Transport Script where
  post s r := let (s, reply) := s.take r; (s, .now (reply.bind ScriptedReply.toResponse))
  stream s r := let (s, reply) := s.take r; (s, .now (reply.bind ScriptedReply.toBody))

end Script
end AnswerStream
