import AnswerStream.Duration
import AnswerStream.Message.Stream

/-!
What carries requests to a server and its answers back. A transport is a pair of functions on a
state of its own: `post` waits for a whole response, `stream` for the head of one whose body then
arrives piece by piece. Every wait is given as a span of time, or has no end.
-/

namespace AnswerStream
open Json (Value)

/-- Header fields by name, sorted. -/
abbrev Headers := List (String × String)

/-- A request to post a body. -/
structure Request where
  url : String
  headers : Headers
  body : String
  /-- The longest time that the whole exchange may take; the transport sees to it. -/
  timeout : Duration
  deriving DecidableEq, Repr

structure Response where
  status : Nat
  headers : Headers
  body : List UInt8
  deriving DecidableEq, Repr

/-- Whether a status reports success. -/
def isSuccess (status : Nat) : Bool := 200 ≤ status && status < 300

namespace Response

def isSuccess (r : Response) : Bool := AnswerStream.isSuccess r.status

def text? (r : Response) : Option String := Utf8.decode? r.body

def value? (r : Response) : Option Value := r.text?.bind Value.parse?

end Response

/-- What comes after the last arrival of a body. -/
inductive Ending
  | closes (delay : Duration)
  /-- The connection stays open without a sign of life. -/
  | never
  deriving DecidableEq, Repr

/-- A body that arrives in pieces, each some time after the one before. -/
structure Body where
  arrivals : List (Duration × Arrival)
  ending : Ending
  deriving DecidableEq, Repr

/-- What a request is answered with. -/
inductive Reply (α : Type)
  | after (delay : Duration) (result : Except TransportError α)
  | never

namespace Reply

variable {α : Type}

/-- A reply without delay. -/
def now (result : Except TransportError α) : Reply α := .after .zero result

def ok (a : α) : Reply α := now (.ok a)

def error (e : TransportError) : Reply α := now (.error e)

end Reply

structure Transport (σ : Type) where
  post : σ → Request → σ × Reply Response
  stream : σ → Request → σ × Reply Body

end AnswerStream
