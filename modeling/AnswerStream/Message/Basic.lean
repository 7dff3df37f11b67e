import AnswerStream.Json.Record
import AnswerStream.Message.Block
import AnswerStream.Message.Status
import AnswerStream.Sse.Frame

/-!
Messages of an answer stream. `Wire` is the record as it is written; `Message.ofFrame` reads the
payload of a frame, or finds that the frame carries no message.
-/

namespace AnswerStream
open Json (Node Record Value)

/-- A message as it is written, before its blocks are judged. -/
structure Wire where
  status : String
  cursor : Option String
  terminal : Bool
  textCompleted : Bool
  backendId : Option String
  threadSlug : Option String
  blocks : Option (List Value)

namespace Wire

def fieldNames : List String :=
  ["status", "cursor", "final_sse_message", "text_completed", "backend_uuid", "thread_url_slug",
    "blocks"]

/-- An identifier comes as a text or as a whole number. -/
def readId : Node → Option (Option String)
  | .null => some none
  | .text s => s.map some
  | n => n.int?.map fun i => some (String.ofList (Json.Number.renderInt i))

/-- The record and the list of its blocks are the two outer levels of nesting. -/
def blockDepth : Nat := Value.maxDepth - 2

def ofNode? (n : Node) : Option Wire := do
  let r ← Record.ofNode? fieldNames n
  let status ← r.default? "status" none (Node.nullable? Node.text?)
  let cursor ← r.default? "cursor" none readId
  let terminal ← r.default? "final_sse_message" none (Node.nullable? Node.bool?)
  let textCompleted ← r.default? "text_completed" none (Node.nullable? Node.bool?)
  let backendId ← r.default? "backend_uuid" none (Node.nullable? Node.text?)
  let threadSlug ← r.default? "thread_url_slug" none (Node.nullable? Node.text?)
  let blocks ← r.default? "blocks" none (Node.nullable? (Node.list? (Value.ofNode? blockDepth)))
  some
    { status := status.getD "", cursor, terminal := terminal.getD false
      textCompleted := textCompleted.getD false, backendId, threadSlug, blocks }

end Wire

structure Message where
  status : Status
  cursor : Option String
  /-- The last message of its stream. -/
  terminal : Bool
  textCompleted : Bool
  backendId : Option String
  threadSlug : Option String
  blocks : List Block

namespace Message

def ofWire (w : Wire) : Except Failure Message := do
  let blocks ← (w.blocks.getD []).mapM Block.read
  pure
    { status := .parse w.status, cursor := w.cursor, terminal := w.terminal
      textCompleted := w.textCompleted, backendId := w.backendId, threadSlug := w.threadSlug
      blocks := blocks.filterMap id }

/-- The event name under which messages come; a frame without a name may hold one too. -/
def eventName : String := "message"

def ofPayload (payload : String) : Except Failure Message :=
  match (Node.parse? payload).bind Wire.ofNode? with
  | some w => ofWire w
  | none => .error (.malformed .notJson payload)

/-- Other events and blank payloads carry no message. -/
def ofFrame (f : Sse.Frame) : Except Failure (Option Message) :=
  if f.event = none ∨ f.event = some eventName then
    if Text.isBlank f.data then .ok none else (ofPayload f.data).map some
  else .ok none

end Message
end AnswerStream
