import AnswerStream.Text.Blank

/-!
The progress of a query as the server reports it.
-/

namespace AnswerStream

inductive Status
  | pending
  | inProgress
  | completed
  /-- A report without a known meaning, kept as it came. -/
  | other (raw : String)
  deriving DecidableEq, Repr

namespace Status

/-- The case of ASCII letters does not matter. -/
def parse (raw : String) : Status :=
  match Text.upperAscii raw with
  | "" | "PENDING" => .pending
  | "IN_PROGRESS" | "INPROGRESS" | "RUNNING" => .inProgress
  | "COMPLETED" | "COMPLETE" | "DONE" => .completed
  | _ => .other raw

def label : Status → String
  | .pending => "pending"
  | .inProgress => "in_progress"
  | .completed => "completed"
  | .other raw => raw

end Status
end AnswerStream
