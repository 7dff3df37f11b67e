import AnswerStream.Json.Value

/-!
Reading records: objects with known names. The members come in any order, unknown ones are passed
over whatever they hold, and a known one may stand only once. A record may also be written as an
array that gives the fields in their order; then only fields with a value of their own may be left
off.
-/

namespace AnswerStream.Json

structure Record where
  fields : List (String × Node)
  /-- Written as an array. -/
  positional : Bool

namespace Record

/-- The known members of an object, in the order of the text. -/
def known? (names : List String) (members : List (Option String × Node)) :
    Option (List (String × Node)) := do
  let keyed ← members.mapM fun m => m.1.map fun key => (key, m.2)
  let fields := keyed.filter fun m => names.contains m.1
  if (fields.map Prod.fst).Nodup then some fields else none

def ofNode? (names : List String) : Node → Option Record
  | .object members => (known? names members).map fun fields => ⟨fields, false⟩
  | .array items =>
    if items.length ≤ names.length then some ⟨names.zip items, true⟩ else none
  | _ => none

def get? (r : Record) (name : String) : Option Node := r.fields.lookup name

def required? {α : Type} (r : Record) (name : String) (read : Node → Option α) : Option α :=
  (r.get? name).bind read

/-- A field with a value of its own where it is missing. -/
def default? {α : Type} (r : Record) (name : String) (missing : α) (read : Node → Option α) :
    Option α :=
  match r.get? name with
  | none => some missing
  | some n => read n

/-- A field that may be missing from an object, but not from an array. -/
def named? {α : Type} (r : Record) (name : String) (read : Node → Option (Option α)) :
    Option (Option α) :=
  match r.get? name with
  | none => if r.positional then none else some none
  | some n => read n

end Record

namespace Node

def text? : Node → Option String
  | .text s => s
  | _ => none

def bool? : Node → Option Bool
  | .bool b => some b
  | _ => none

def int? : Node → Option Int
  | .number l => l.int?
  | _ => none

/-- A whole number from zero up to below `bound`. -/
def natural? (bound : Nat) (n : Node) : Option Nat :=
  match n.int? with
  | some (.ofNat k) => if k < bound then some k else none
  | _ => none

/-- Any number, whole ones included. -/
def real? : Node → Option Float
  | .number l =>
    match l.int? with
    | some (.ofNat k) => some k.toUInt64.toFloat
    | some (.negSucc k) => some (-(k + 1).toUInt64.toFloat)
    | none => l.float?
  | _ => none

/-- A value that may be null. -/
def nullable? {α : Type} (read : Node → Option α) : Node → Option (Option α)
  | .null => some none
  | n => (read n).map some

def list? {α : Type} (read : Node → Option α) : Node → Option (List α)
  | .array items => items.mapM read
  | _ => none

end Node
end AnswerStream.Json
