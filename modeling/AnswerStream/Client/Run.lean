import AnswerStream.Answer.Assembly
import AnswerStream.Client.Basic

/-!
Running a query. Every attempt sends the same request and starts from an empty assembly; it ends
with the first terminal message, with the first failure, or with the body.
-/

namespace AnswerStream

/-- What an attempt has gathered so far. -/
structure Gathering where
  assembly : Assembly
  /-- The progress that the observers know of. -/
  shown : Option Progress

def Gathering.empty : Gathering := ⟨.empty, none⟩

namespace Surroundings

variable {σ : Type} (w : Surroundings σ)

/-- Progress is shown where it has changed. -/
def absorb (g : Gathering) (m : Message) : Call σ Gathering := do
  let assembly := g.assembly.apply m
  if w.watch.progress then
    let progress := assembly.progress?
    match progress with
    | some p => if progress ≠ g.shown then w.emit (.progressed p)
    | none => pure ()
    pure ⟨assembly, progress⟩
  else pure ⟨assembly, g.shown⟩

/-- Takes deliveries up to the terminal message. -/
def absorbAll (g : Gathering) : List Delivery → Call σ Gathering
  | [] => pure g
  | .error e :: _ => Call.fail e
  | .ok m :: rest => do
    let g ← w.absorb g m
    if g.assembly.terminal then pure g else absorbAll g rest

/-- Reads a body up to the terminal message. -/
def readBody (ending : Ending) (reader : StreamReader) (g : Gathering) :
    List (Duration × Arrival) → Call σ Gathering
  | [] =>
    match ending with
    | .never => w.hang
    | .closes delay => do
      w.pause delay
      w.absorbAll g reader.finish
  | (delay, arrival) :: rest => do
    w.pause delay
    let (reader, deliveries) := reader.feed arrival
    let g ← w.absorbAll g deliveries
    if g.assembly.terminal then pure g else readBody ending reader g rest

/-- One attempt at a query. -/
def attempt (r : Request) : Call σ Answer := do
  w.enter .rateLimited
  w.acquire
  w.enter .connecting
  let body ← w.exchange w.transport.stream r
  w.enter .streaming
  let g ← w.readBody body.ending .start .empty body.arrivals
  Call.ofExcept g.assembly.finalize

/-- The stage that a call is left in, once it has a result or has failed. -/
def conclude {α : Type} (call : Call σ α) : Call σ α := do
  let a ← tryCatch call fun
    | .failed e => do
      w.enter .failed
      Call.fail e
    | .stuck => throw .stuck
  w.enter .complete
  pure a

end Surroundings

namespace Client

variable {σ : Type}

def queryRequest (c : Client) (q : Query) (ids : FreshIds) : Request :=
  { url := c.config.queryUrl
    headers := c.headers "text/event-stream"
    body := (q.body c.config.locale ids).compact
    timeout := c.config.timeoutFor q.mode }

/-- Runs a query; a blank one is refused before anything is sent. -/
def run (c : Client) (w : Surroundings σ) (q : Query) (ids : FreshIds) : Call σ Answer := do
  w.enter .idle
  w.conclude
    (if Text.isBlank q.text then Call.fail (.invalidRequest "query text is empty")
    else w.withRetries c.policy (w.attempt (c.queryRequest q ids)))

end Client
end AnswerStream
