import AnswerStream.Json.Token

/-!
The syntax tree of a JSON text. Tokens are taken one at a time against a stack of open arrays and
objects, so a tree may be of any depth. Nothing is dropped and nothing is judged here: repeated
keys, numbers out of range and strings without a text stay in the tree for the reader of a value or
of a record to accept or refuse.
-/

namespace AnswerStream.Json

inductive Node
  | null
  | bool (b : Bool)
  | number (l : Literal)
  | text (s : Option String)
  | array (items : List Node)
  | object (members : List (Option String × Node))

/-- An open array or object with what it holds so far, in reverse, or a member that waits for its
value. -/
inductive Open
  | array (items : List Node)
  | object (members : List (Option String × Node))
  | member (key : Option String)

/-- What the next token may be. -/
inductive Awaiting
  | value
  | firstItem
  | firstKey
  | key
  | colon
  | next
  | nothing (n : Node)

structure Builder where
  stack : List Open
  awaiting : Awaiting

namespace Builder

def start : Builder := ⟨[], .value⟩

/-- Puts a finished value where it belongs. -/
def place (stack : List Open) (n : Node) : Option Builder :=
  match stack with
  | [] => some ⟨[], .nothing n⟩
  | .array items :: rest => some ⟨.array (n :: items) :: rest, .next⟩
  | .member key :: .object members :: rest => some ⟨.object ((key, n) :: members) :: rest, .next⟩
  | _ => none

def value (stack : List Open) : Token → Option Builder
  | .beginArray => some ⟨.array [] :: stack, .firstItem⟩
  | .beginObject => some ⟨.object [] :: stack, .firstKey⟩
  | .null => place stack .null
  | .bool b => place stack (.bool b)
  | .number l => place stack (.number l)
  | .text s => place stack (.text s)
  | .endArray | .endObject | .colon | .comma => none

def close (stack : List Open) : Token → Option Builder
  | .endArray =>
    match stack with
    | .array items :: rest => place rest (.array items.reverse)
    | _ => none
  | .endObject =>
    match stack with
    | .object members :: rest => place rest (.object members.reverse)
    | _ => none
  | _ => none

def comma (stack : List Open) : Option Builder :=
  match stack with
  | .array _ :: _ => some ⟨stack, .value⟩
  | .object _ :: _ => some ⟨stack, .key⟩
  | _ => none

def step (b : Builder) (t : Token) : Option Builder :=
  match b.awaiting with
  | .value => value b.stack t
  | .firstItem =>
    match t with
    | .endArray => close b.stack t
    | _ => value b.stack t
  | .firstKey =>
    match t with
    | .text s => some ⟨.member s :: b.stack, .colon⟩
    | .endObject => close b.stack t
    | _ => none
  | .key =>
    match t with
    | .text s => some ⟨.member s :: b.stack, .colon⟩
    | _ => none
  | .colon =>
    match t with
    | .colon => some ⟨b.stack, .value⟩
    | _ => none
  | .next =>
    match t with
    | .comma => comma b.stack
    | _ => close b.stack t
  | .nothing _ => none

def run (b : Builder) (ts : List Token) : Option Builder := ts.foldlM step b

@[simp] theorem run_nil (b : Builder) : run b [] = some b := rfl

@[simp] theorem run_cons (b : Builder) (t : Token) (ts : List Token) :
    run b (t :: ts) = (step b t).bind fun b' => run b' ts := rfl

theorem run_append (b : Builder) (as bs : List Token) :
    run b (as ++ bs) = (run b as).bind fun b' => run b' bs := by
  simp [run, List.foldlM_append]

end Builder

namespace Node

def ofTokens? (ts : List Token) : Option Node := do
  match (← Builder.start.run ts).awaiting with
  | .nothing n => some n
  | _ => none

/-- The tree of a text that holds one well-formed value. -/
def parse? (s : String) : Option Node := (Token.scan? s.toList).bind ofTokens?

def isNull : Node → Bool
  | .null => true
  | _ => false

end Node
end AnswerStream.Json
