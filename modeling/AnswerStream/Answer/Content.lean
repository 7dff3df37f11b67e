import AnswerStream.Answer.Basic

/-!
What the content of a field says: the text of an answer, a list of sources, or a research plan.
-/

namespace AnswerStream
open Json (Value)

/-- The parts of a chunked text, where any of them holds something. -/
def joinedChunks? (markdown : Value) : Option String := do
  let chunks ← (markdown.get? "chunks").bind Value.array?
  let joined := String.join (chunks.filterMap Value.text?)
  if joined.isEmpty then none else some joined

/-- The text under a block, in chunks or whole. -/
def markdownText? (content : Value) : Option String := do
  let markdown ← content.get? "markdown_block"
  joinedChunks? markdown <|> markdown.textAt? "answer"

/-- The first shape that is there wins: chunks with text, the markdown answer, a plain text, the
text of an answer block. A content that is itself a text is the answer. -/
def answerText? (content : Value) : Option String :=
  match content with
  | .text s => some s
  | _ =>
    markdownText? content <|> content.textAt? "text" <|>
      (content.get? "answer_block").bind (Value.textAt? "text")

namespace Reference

def ofEntry (entry : Value) : Reference :=
  { title := (entry.textAt? "name").getD ""
    url := (entry.textAt? "url").getD ""
    snippet := entry.textAt? "snippet"
    timestamp := entry.textAt? "timestamp" }

/-- The list of sources, if the content has one; entries that are not objects are passed over. -/
def listOf? (content : Value) : Option (List Reference) := do
  let results ← ((content.get? "web_result_block").bind (Value.get? "web_results")).bind
      Value.array?
  some ((results.filter Value.isObject).map ofEntry)

end Reference

namespace Progress

/-- A goal is a text or has a description. -/
def goal? : Value → Option String
  | .text s => some s
  | v => v.textAt? "description"

/-- The plan, if the content has one that is not empty. -/
def ofContent? (content : Value) : Option Progress := do
  let plan ← content.get? "plan_block"
  match plan with
  | .object (_ :: _) =>
    some
      { step := plan.textAt? "progress"
        etaSeconds := (plan.get? "eta_seconds_remaining").bind Value.natural?
        goals := (((plan.get? "goals").bind Value.array?).getD []).filterMap goal?
        percent := ((plan.get? "pct_complete").bind Value.natural?).map (min 100) }
  | _ => none

end Progress
end AnswerStream
