import AnswerStream.Failure.Basic
import AnswerStream.Json.Printer
import AnswerStream.Text.Blank

/-!
Blocks: named units of server state. A block sets its field to a whole value, given either as the
block's own members or as the replacement of one member; nothing is ever merged. A patch that would
need the value it changes is refused.
-/

namespace AnswerStream
open Json (Value)

/-- What a field is used for. -/
inductive BlockKind
  | answerText
  | webResults
  | progress
  | other (name : String)
  deriving DecidableEq, Repr

namespace BlockKind

def ofUsage (usage : String) : BlockKind :=
  if Text.startsWith usage "ask_text" then .answerText
  else if usage = "web_results" then .webResults
  else if usage = "plan" ∨ usage = "pro_search_steps" then .progress
  else .other usage

def label : BlockKind → String
  | .answerText => "answer-text"
  | .webResults => "web-results"
  | .progress => "progress"
  | .other name => name

end BlockKind

inductive BlockUpdate
  | snapshot (content : Value)
  | replace (key : String) (value : Value)

/-- The content that the field holds afterwards. -/
def BlockUpdate.content : BlockUpdate → Value
  | .snapshot content => content
  | .replace key value => .object [(key, value)]

structure Block where
  field : String
  kind : BlockKind
  update : BlockUpdate

namespace Block

def malformed (flaw : Flaw) (payload : Value) : Failure := .malformed flaw payload.compact

/-- Only a replacement at the root is supported; its missing value is null. -/
def readPatch (patch : Value) : Except Failure Value :=
  let atRoot : Bool := match patch.textAt? "path" with
    | none | some "" | some "/" => true
    | some _ => false
  if patch.textAt? "op" = some "replace" ∧ atRoot then .ok ((patch.get? "value").getD .null)
  else .error (malformed .unsupportedPatch patch)

/-- The last replacement counts. -/
def readDiff (diff : Value) : Except Failure BlockUpdate := do
  let some key := diff.textAt? "field" | throw (malformed .diffWithoutField diff)
  let some patches := (diff.get? "patches").bind Value.array?
    | throw (malformed .diffWithoutPatches diff)
  let values ← patches.mapM readPatch
  match values.getLast? with
  | some value => pure (.replace key value)
  | none => throw (malformed .diffWithoutPatches diff)

def usageKey : String := "intended_usage"

def diffKey : String := "diff_block"

/-- A block without a usage carries no state that could be addressed, and gives nothing. -/
def read (raw : Value) : Except Failure (Option Block) :=
  match raw with
  | .object members =>
    match raw.textAt? usageKey with
    | none | some "" => .ok none
    | some field => do
      let update ← match raw.get? diffKey with
        | some diff => readDiff diff
        | none => pure (.snapshot (.object (members.filter fun m => m.1 != usageKey)))
      pure (some ⟨field, .ofUsage field, update⟩)
  | _ => .error (malformed .blockNotObject raw)

end Block
end AnswerStream
