import AnswerStream.Sse.Field

/-!
Frames of an event stream. The reader gathers event and data lines until a blank line closes the
frame; `feed` answers with the frame that its line has closed, `finish` with the one still open at
the end.
-/

namespace AnswerStream.Sse

/-- An optional event name and the data lines joined by line feeds. -/
structure Frame where
  event : Option String
  data : String
  deriving DecidableEq, Repr

def Frame.isEmpty (f : Frame) : Bool := f.data.isEmpty

/-- The open frame: the last event name and the data lines in reverse. -/
structure FrameReader where
  event : Option String
  data : List String
  deriving DecidableEq, Repr

namespace FrameReader

def empty : FrameReader := ⟨none, []⟩

def isIdle (r : FrameReader) : Bool := r.event.isNone && r.data.isEmpty

/-- The open frame, if anything is gathered. -/
def frame? (r : FrameReader) : Option Frame :=
  if r.isIdle then none else some ⟨r.event, String.intercalate "\n" r.data.reverse⟩

def take (r : FrameReader) : FrameReader × Option Frame := (empty, r.frame?)

def feedField (r : FrameReader) : Field → FrameReader × Option Frame
  | .event name => ({ r with event := some name }, none)
  | .data value => ({ r with data := value :: r.data }, none)
  | .blank => r.take
  | .ignored => (r, none)

def feed (r : FrameReader) (line : String) : FrameReader × Option Frame :=
  r.feedField (.ofLine line)

def finish (r : FrameReader) : FrameReader × Option Frame := r.take

/-- Feeds a line to a reader that has closed some frames already, the last of them first. -/
def step (run : FrameReader × List Frame) (line : String) : FrameReader × List Frame :=
  ((run.1.feed line).1, (run.1.feed line).2.toList ++ run.2)

/-- Feeds the lines in order; the frames are those that the lines have closed. -/
def feedAll (r : FrameReader) (lines : List String) : FrameReader × List Frame :=
  let (r, closed) := lines.foldl step (r, [])
  (r, closed.reverse)

theorem foldl_step (r : FrameReader) (closed : List Frame) (lines : List String) :
    lines.foldl step (r, closed) =
      ((lines.foldl step (r, [])).1, (lines.foldl step (r, [])).2 ++ closed) := by
  induction lines generalizing r closed with
  | nil => rfl
  | cons line lines ih =>
    simp only [List.foldl_cons, step]
    rw [ih _ ((r.feed line).2.toList ++ closed), ih _ ((r.feed line).2.toList ++ [])]
    simp

theorem feedAll_append (r : FrameReader) (as bs : List String) :
    r.feedAll (as ++ bs) =
      (((r.feedAll as).1.feedAll bs).1, (r.feedAll as).2 ++ ((r.feedAll as).1.feedAll bs).2) := by
  simp only [feedAll, List.foldl_append]
  rw [foldl_step _ (as.foldl step (r, [])).2]
  simp

@[simp] theorem isIdle_finish (r : FrameReader) : r.finish.1.isIdle = true := rfl

end FrameReader
end AnswerStream.Sse
