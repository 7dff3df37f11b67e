import AnswerStream.Message.Basic
import AnswerStream.Sse.LineDecoder

/-!
The messages of a body. `StreamReader` takes what arrives piece by piece; `messages` collects a
whole body. The result is always a run of messages with at most one failure, which comes last.
-/

namespace AnswerStream
open Sse (Frame FrameReader LineDecoder)

/-- What a body delivers next. -/
inductive Arrival
  | chunk (bytes : List UInt8)
  | failure (error : TransportError)
  deriving DecidableEq, Repr

abbrev Delivery := Except Failure Message

namespace Delivery

/-- What a frame delivers, if anything. -/
def ofFrame? (f : Frame) : Option Delivery :=
  match Message.ofFrame f with
  | .ok (some m) => some (.ok m)
  | .ok none => none
  | .error e => some (.error e)

def isOk : Delivery → Bool
  | .ok _ => true
  | .error _ => false

/-- Cut just after the first failure. -/
def upToFailure (ds : List Delivery) : List Delivery :=
  ds.takeWhile isOk ++ (ds.dropWhile isOk).take 1

def ofFrames (fs : List Frame) : List Delivery := upToFailure (fs.filterMap ofFrame?)

def allOk (ds : List Delivery) : Bool := ds.all isOk

end Delivery

/-- The buffered octets, the open frame, and whether a failure has ended the stream. -/
structure StreamReader where
  lines : LineDecoder
  frames : FrameReader
  failed : Bool

namespace StreamReader

def start : StreamReader := ⟨.empty LineDecoder.defaultLimit, .empty, false⟩

/-- Decodes the frames that the lines close. -/
def takeLines (frames : FrameReader) (lines : List String) : FrameReader × List Delivery :=
  let (frames, closed) := frames.feedAll lines
  (frames, Delivery.ofFrames closed)

def feedChunk (r : StreamReader) (bytes : List UInt8) : StreamReader × List Delivery :=
  match r.lines.push bytes with
  | (lines, .error e) => (⟨lines, r.frames, true⟩, [.error e])
  | (lines, .ok texts) =>
    let (frames, ds) := takeLines r.frames texts
    (⟨lines, frames, !Delivery.allOk ds⟩, ds)

/-- Nothing that arrives after a failure is looked at. -/
def feed (r : StreamReader) (a : Arrival) : StreamReader × List Delivery :=
  if r.failed then (r, [])
  else
    match a with
    | .chunk bytes => r.feedChunk bytes
    | .failure e => ({ r with failed := true }, [.error (.ofTransport e)])

/-- The body has ended: its last line needs no line feed and its last frame no blank line. -/
def finish (r : StreamReader) : List Delivery :=
  if r.failed then []
  else
    match r.lines.finish.2 with
    | .error e => [.error e]
    | .ok line =>
      let (frames, closed) := r.frames.feedAll line.toList
      Delivery.ofFrames (closed ++ frames.finish.2.toList)

/-- What a list of arrivals delivers; `done` holds earlier deliveries in reverse. -/
def run (r : StreamReader) (done : List Delivery) : List Arrival → StreamReader × List Delivery
  | [] => (r, done.reverse)
  | a :: rest =>
    let (r, ds) := r.feed a
    run r (ds.reverse ++ done) rest

end StreamReader

/-- Everything that a body delivers which ends after the last arrival. -/
def messages (arrivals : List Arrival) : List Delivery :=
  let (r, ds) := StreamReader.start.run [] arrivals
  ds ++ r.finish

end AnswerStream
