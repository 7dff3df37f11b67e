import AnswerStream.Json.Record

/-!
The two modes of a query. A mode is written as its name, or as an object with its name over null.
-/

namespace AnswerStream
open Json (Node Value)

inductive QueryMode
  | standard
  /-- Research in several steps, which can run for minutes. -/
  | deepResearch
  deriving DecidableEq, Repr

namespace QueryMode

def name : QueryMode → String
  | .standard => "standard"
  | .deepResearch => "deep_research"

def ofName? : String → Option QueryMode
  | "standard" => some .standard
  | "deep_research" => some .deepResearch
  | _ => none

def ofNode? : Node → Option QueryMode
  | .text s => s.bind ofName?
  | .object [(some key, .null)] => ofName? key
  | _ => none

def toValue (m : QueryMode) : Value := .text m.name

/-- What the server is asked to search with. -/
def searchImplementation : QueryMode → String
  | .standard => "standard"
  | .deepResearch => "multi_step"

end QueryMode
end AnswerStream
