import AnswerStream.Json.Record
import AnswerStream.Transport.Basic

/-!
A transport that plays back what a server did. The n-th request meets the n-th exchange, and the
last exchange is met again and again. An exchange is written as a record in JSON.
-/

namespace AnswerStream
open Json (Node Record)

/-- How an exchange goes on behind the body. -/
inductive Aftermath
  | closes
  | cut
  | stalls
  /-- The user interrupts the program while the request is under way, and nothing follows. -/
  | interrupted
  deriving DecidableEq, Repr

def Aftermath.ofName? : String → Option Aftermath
  | "close" => some .closes
  | "cut" => some .cut
  | "stall" => some .stalls
  | "interrupt" => some .interrupted
  | _ => none

structure Exchange where
  /-- Missing where the server hangs up without an answer. -/
  status : Option Nat
  body : List UInt8
  aftermath : Aftermath
  deriving DecidableEq, Repr

namespace Exchange

def fieldNames : List String := ["status", "body", "then"]

def ofNode? (n : Node) : Option Exchange := do
  let r ← Record.ofNode? fieldNames n
  let status ← r.default? "status" none (Node.nullable? (Node.natural? 1000))
  let body ← r.default? "body" "" Node.text?
  let aftermath ← r.default? "then" .closes fun n => n.text?.bind Aftermath.ofName?
  some { status, body := Utf8.encode body, aftermath }

def reset : TransportError := .connectionReset "connection closed by the server"

def toResponse (x : Exchange) : Reply Response :=
  match x.status, x.aftermath with
  | _, .interrupted => .never
  | none, _ | some _, .cut => .error reset
  | some status, .closes | some status, .stalls => .ok ⟨status, [], x.body⟩

/-- A body as far as it came. -/
def toParts (x : Exchange) : Body :=
  let chunk := (Duration.zero, Arrival.chunk x.body)
  match x.aftermath with
  | .closes => ⟨[chunk], .closes .zero⟩
  | .cut => ⟨[chunk, (.zero, .failure reset)], .closes .zero⟩
  | .stalls | .interrupted => ⟨[chunk], .never⟩

def toBody (x : Exchange) : Reply Body :=
  match x.status, x.aftermath with
  | none, .interrupted => .never
  | none, _ => .error reset
  | some status, _ =>
    if isSuccess status then .ok x.toParts else .error (.status status (Utf8.lossy x.body))

end Exchange

structure Transcript where
  /-- What is still to come. -/
  exchanges : List Exchange
  /-- The latest first. -/
  requests : List Request
  deriving DecidableEq, Repr

namespace Transcript

/-- Reads a transcript of one exchange a line, blank lines passed over. -/
def exchangesOf? (lines : List String) : Option (List Exchange) :=
  (lines.filter fun line => !Text.isBlank line).mapM fun line =>
    (Node.parse? line).bind Exchange.ofNode?

def ofExchanges (xs : List Exchange) : Transcript := ⟨xs, []⟩

/-- The exchange that the next request meets. -/
def next? (t : Transcript) : Option Exchange := t.exchanges.head?

def rest : List Exchange → List Exchange
  | [] => []
  | [x] => [x]
  | _ :: xs => xs

/-- Where nobody listens, no request gets out. -/
def take {α : Type} (t : Transcript) (r : Request) (reply : Exchange → Reply α) :
    Transcript × Reply α :=
  match t.next? with
  | none => (t, .error (.connectionFailed r.url "connection refused"))
  | some x => (⟨rest t.exchanges, r :: t.requests⟩, reply x)

def transport : Transport Transcript where
  post t r := t.take r Exchange.toResponse
  stream t r := t.take r Exchange.toBody

end Transcript
end AnswerStream
