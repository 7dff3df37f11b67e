import AnswerStream.Failure.Basic
import AnswerStream.Text.Utf8

/-!
Lines of a body that arrives in chunks cut anywhere. Octets are kept until a line feed completes
their line, and only a whole line is decoded. A push that fails delivers none of its lines.
-/

namespace AnswerStream.Sse

def lineFeed : UInt8 := 10

def carriageReturn : UInt8 := 13

/-- Octets split at line feeds: the complete lines and the part being read, both in reverse. -/
structure Split where
  lines : List (List UInt8)
  tail : List UInt8
  deriving DecidableEq, Repr

namespace Split

def step (s : Split) (b : UInt8) : Split :=
  if b = lineFeed then ⟨s.tail.reverse :: s.lines, []⟩ else ⟨s.lines, b :: s.tail⟩

def run (s : Split) (bytes : List UInt8) : Split := bytes.foldl step s

theorem run_append (s : Split) (as bs : List UInt8) : s.run (as ++ bs) = (s.run as).run bs := by
  simp [run]

end Split

/-- The complete lines without their line feeds, and what follows the last line feed. -/
def splitLines (bytes : List UInt8) : List (List UInt8) × List UInt8 :=
  let s := Split.run ⟨[], []⟩ bytes
  (s.lines.reverse, s.tail.reverse)

/-- A line feed may follow a carriage return, which then belongs to the line end. -/
def dropReturn (line : List UInt8) : List UInt8 :=
  if line.getLast? = some carriageReturn then line.dropLast else line

def decodeLine (line : List UInt8) : Except Failure String :=
  let text := dropReturn line
  match Utf8.decode? text with
  | some s => .ok s
  | none => .error (.malformed .invalidUtf8 (Utf8.lossy text))

/-- The octets not yet delivered as lines, and the most octets that a line may have. -/
structure LineDecoder where
  limit : Nat
  pending : List UInt8
  deriving DecidableEq, Repr

namespace LineDecoder

/-- A whole answer travels on one line, so the limit is wide. -/
def defaultLimit : Nat := 4 * 1024 * 1024

def empty (limit : Nat) : LineDecoder := ⟨limit, []⟩

/-- Octets of the buffer that the report of an overlong line shows. -/
def headLength : Nat := 64

/-- The report shows the start of what is buffered. -/
def checkLength (limit : Nat) (buffer line : List UInt8) : Except Failure Unit :=
  if line.length ≤ limit then .ok ()
  else .error (.malformed (.lineTooLong limit) (Utf8.lossy (buffer.take headLength)))

/-- Decodes the lines in order, up to the first that is too long or not UTF-8. -/
def decodeLines (limit : Nat) (buffer : List UInt8) (lines : List (List UInt8)) :
    Except Failure (List String) :=
  lines.mapM fun line => do
    checkLength limit buffer line
    decodeLine line

/-- Takes a chunk and answers with the lines that it completes. A complete line that is refused
stays buffered with all around it, so it is met again; an overlong tail is refused after the lines
before it are gone. -/
def push (d : LineDecoder) (chunk : List UInt8) : LineDecoder × Except Failure (List String) :=
  let buffer := d.pending ++ chunk
  let (lines, tail) := splitLines buffer
  match decodeLines d.limit buffer lines with
  | .error e => (⟨d.limit, buffer⟩, .error e)
  | .ok texts =>
    match checkLength d.limit tail tail with
    | .error e => (⟨d.limit, tail⟩, .error e)
    | .ok () => (⟨d.limit, tail⟩, .ok texts)

/-- Everything that is left, as one line, once the body has ended. -/
def finish (d : LineDecoder) : LineDecoder × Except Failure (Option String) :=
  if d.pending.isEmpty then (d, .ok none)
  else (⟨d.limit, []⟩, (decodeLine d.pending).map some)

end LineDecoder
end AnswerStream.Sse
