import AnswerStream.Answer.Content
import AnswerStream.Message.Basic

/-!
The answer that a sequence of messages adds up to. Every block overwrites its field; the number of
the write tells which field was written last.
-/

namespace AnswerStream
open Json (Value)

/-- The latest value of a field. -/
structure FieldState where
  kind : BlockKind
  content : Value
  /-- The number of the write among all writes. -/
  written : Nat

structure Assembly where
  fields : List (String × FieldState)
  terminal : Bool
  status : Status
  threadSlug : Option String
  writes : Nat
  messageCount : Nat

namespace Assembly

def empty : Assembly := ⟨[], false, .pending, none, 0, 0⟩

def writeBlock (a : Assembly) (b : Block) : Assembly :=
  let written := a.writes + 1
  { a with
    fields := Json.Members.insert b.field ⟨b.kind, b.update.content, written⟩ a.fields
    writes := written }

def apply (a : Assembly) (m : Message) : Assembly :=
  let a := m.blocks.foldl writeBlock a
  { a with
    terminal := a.terminal || m.terminal
    status := m.status
    threadSlug := m.threadSlug <|> a.threadSlug
    messageCount := a.messageCount + 1 }

def applyAll (a : Assembly) (ms : List Message) : Assembly := ms.foldl apply a

theorem applyAll_append (a : Assembly) (as bs : List Message) :
    a.applyAll (as ++ bs) = (a.applyAll as).applyAll bs := by simp [applyAll]

def content? (a : Assembly) (field : String) : Option Value :=
  (a.fields.lookup field).map FieldState.content

/-- The fields of a kind, the last written first. -/
def ofKind (a : Assembly) (kind : BlockKind) : List FieldState :=
  ((a.fields.map Prod.snd).filter (·.kind = kind)).mergeSort fun s t => t.written ≤ s.written

def latest? (a : Assembly) (kind : BlockKind) : Option FieldState := (a.ofKind kind).head?

/-- The plan of the progress field written last. -/
def progress? (a : Assembly) : Option Progress :=
  (a.latest? .progress).bind fun s => Progress.ofContent? s.content

/-- A later answer field without text does not hide an earlier one that has some. -/
def text? (a : Assembly) : Option String :=
  ((a.ofKind .answerText).filterMap fun s => answerText? s.content).find? fun t => !t.isEmpty

def references (a : Assembly) : List Reference :=
  ((a.latest? .webResults).bind fun s => Reference.listOf? s.content).getD []

def finalize (a : Assembly) : Except Failure Answer :=
  if a.terminal then
    match a.text? with
    | some text => .ok ⟨text, a.references, a.status.label, a.threadSlug⟩
    | none => .error .noAnswer
  else .error .incompleteStream

end Assembly
end AnswerStream
