import AnswerStream.Client.Listing
import AnswerStream.Client.Run
import AnswerStream.CommandLine.Report
import AnswerStream.Config.Source
import AnswerStream.Transport.Transcript

/-!
The program as a whole: from its words, its settings and a transport to what it prints and the code
with which it exits. A command that needs no server asks for neither token nor settings.
-/

namespace AnswerStream

/-- What the program is started with. -/
structure Invocation where
  /-- The words after the name of the program. -/
  words : List String
  /-- The octets of the user's settings, where there is such a file. -/
  file : Option (List UInt8)
  env : Environment

/-- How a run of the program ends. -/
structure Exit (σ : Type) where
  /-- The exit code; missing where the program waits for ever. -/
  code : Option Nat
  output : Output
  transport : σ

namespace Program

variable {σ : Type}

def cancelledCode : Nat := 130

/-- What the observers print, in the order of the events. -/
def ofEvents (trace : List Event) : Output :=
  .concat (trace.reverse.map fun
    | .progressed p => Report.ofProgress p
    | .paged fetched total => Report.ofPage fetched total
    | .entered _ | .admitted | .sent _ => .empty)

/-- The exit code and the output of a call that has come to its end. -/
def ofCall (outcome : EStateM.Result Stop (Session σ) Output) : Exit σ :=
  match outcome with
  | .ok output s => ⟨some 0, ofEvents s.trace ++ output, s.transport⟩
  | .error .stuck s => ⟨none, ofEvents s.trace, s.transport⟩
  | .error (.failed .cancelled) s =>
    ⟨some cancelledCode, ofEvents s.trace ++ .aside "Cancelled", s.transport⟩
  | .error (.failed e) s =>
    ⟨some 1, ofEvents s.trace ++ .aside s!"Error: {e.advice}", s.transport⟩

/-- The call that a command asks for. -/
def callOf (c : Client) (w : Surroundings σ) (ids : FreshIds) : Command → Call σ Output
  | .query text deep => do
    let mode : QueryMode := if deep then .deepResearch else .standard
    let answer ← c.run w { Query.ofText text with mode } ids
    pure (Report.ofAnswer answer)
  | .threads query => do
    let records ← c.list w query
    pure (Report.ofThreads records)
  | .version | .help | .invalid _ => pure .empty

/-- The token, the settings and the client, or what is printed where one of them is missing. -/
def prepare (i : Invocation) (now : Duration) : Except Output (Client × Limiter) := do
  let some token := i.env.text? Variable.token
    | throw (.aside s!"{Variable.token} is not set")
  let config ← (ClientConfig.loadDefault i.file i.env).mapError fun e =>
    .aside "Failed to load configuration" ++ .aside e.message
  (Client.ofConfig config token now).mapError fun e => .aside e.message

/-- Runs the program over a transport. -/
def run (i : Invocation) (w : Surroundings σ) (start : σ) (ids : FreshIds) : Exit σ :=
  let command := Command.parse i.words
  match Report.ofLocal? command with
  | some (code, output) => ⟨some code, output, start⟩
  | none =>
    match prepare i .zero with
    | .error output => ⟨some 1, output, start⟩
    | .ok (c, limiter) =>
      ofCall ((callOf c w ids command).run ⟨.zero, limiter, start, false, 0, []⟩)

/-- Whether the exchange behind the latest event is one that the user interrupts. -/
def interruptedBy (exchanges : List Exchange) (trace : List Event) : Bool :=
  match trace with
  | .sent _ :: earlier =>
    let before := earlier.countP fun | .sent _ => true | _ => false
    (exchanges[before]? <|> exchanges.getLast?).any (·.aftermath = .interrupted)
  | _ => false

/-- Runs the program against what a server did. -/
def replay (i : Invocation) (exchanges : List Exchange) (draw : Nat → Nat) (ids : FreshIds) :
    Exit Transcript :=
  run i
    { transport := Transcript.transport, draw, cancelAt := none
      cancelOn := interruptedBy exchanges, watch := ⟨false, true, true⟩ }
    (.ofExchanges exchanges) ids

end Program
end AnswerStream
