import AnswerStream.Json.Node

/-!
JSON values. The members of an object are sorted by key and no key repeats; `Members.insert` keeps
it so, the last value given for a key winning. `Value.ofNode?` reads a value nested no deeper than a
limit.
-/

namespace AnswerStream.Json

inductive Value
  | null
  | bool (b : Bool)
  | number (n : Number)
  | text (s : String)
  | array (items : List Value)
  | object (members : List (String × Value))

/-- Sets the value of a key in a list sorted by key. -/
def Members.insert {α : Type} (key : String) (a : α) : List (String × α) → List (String × α)
  | [] => [(key, a)]
  | (k, b) :: rest =>
    if key < k then (key, a) :: (k, b) :: rest
    else if key = k then (key, a) :: rest
    else (k, b) :: insert key a rest

/-- Sets the members one after the other. -/
def Members.ofList {α : Type} (entries : List (String × α)) : List (String × α) :=
  entries.foldl (fun ms e => insert e.1 e.2 ms) []

namespace Value

def int (n : Int) : Value := .number (.int n)

/-- The deepest nesting of arrays and objects that is read. -/
def maxDepth : Nat := 127

/-- Reads a value whose arrays and objects nest at most `depth` deep. -/
def ofNode? : (depth : Nat) → Node → Option Value
  | _, .null => some .null
  | _, .bool b => some (.bool b)
  | _, .number l => (Number.ofLiteral? l).map .number
  | _, .text s => s.map .text
  | 0, .array _ => none
  | 0, .object _ => none
  | depth + 1, .array items => (items.mapM (ofNode? depth)).map .array
  | depth + 1, .object members => do
    let entries ← members.mapM fun m => do
      let key ← m.1
      let v ← ofNode? depth m.2
      some (key, v)
    some (.object (Members.ofList entries))

def parse? (s : String) : Option Value := (Node.parse? s).bind (ofNode? maxDepth)

/-- The value under a key, where this is an object that has it. -/
def get? (key : String) : Value → Option Value
  | .object members => members.lookup key
  | _ => none

def text? : Value → Option String
  | .text s => some s
  | _ => none

def array? : Value → Option (List Value)
  | .array items => some items
  | _ => none

def isObject : Value → Bool
  | .object _ => true
  | _ => false

def natural? : Value → Option Nat
  | .number (.int (.ofNat n)) => some n
  | _ => none

/-- The text under a key. -/
def textAt? (key : String) (v : Value) : Option String := (v.get? key).bind text?

end Value
end AnswerStream.Json
