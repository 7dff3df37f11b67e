import AnswerStream.Json.Number
import AnswerStream.Text.Hex

/-!
The tokens of a JSON text. Reading goes one character at a time: `step` says what a character does
to the reader, `scan` runs a whole text and then closes what is still open. A string token keeps its
text, or the fact that a surrogate escape in it had no partner; such a string is well formed but has
no text.
-/

namespace AnswerStream.Json

inductive Token
  | beginArray
  | endArray
  | beginObject
  | endObject
  | colon
  | comma
  | null
  | bool (b : Bool)
  | number (l : Literal)
  | text (s : Option String)
  deriving DecidableEq, Repr

/-- The part of a string read so far, in reverse. -/
structure TextScan where
  done : List Char
  /-- A leading surrogate that waits for its partner. -/
  leading : Option Nat
  /-- No surrogate has gone without a partner. -/
  sound : Bool
  deriving DecidableEq, Repr

namespace TextScan

def start : TextScan := ⟨[], none, true⟩

def push (t : TextScan) (c : Char) : TextScan :=
  ⟨c :: t.done, none, t.sound && t.leading.isNone⟩

def isLeading (n : Nat) : Bool := 0xD800 ≤ n && n < 0xDC00

def isTrailing (n : Nat) : Bool := 0xDC00 ≤ n && n < 0xE000

/-- Takes up an escaped code unit. -/
def pushUnit (t : TextScan) (n : Nat) : TextScan :=
  match t.leading with
  | some lead =>
    if isTrailing n then
      ⟨Char.ofNat ((lead - 0xD800) * 0x400 + (n - 0xDC00) + 0x10000) :: t.done, none, t.sound⟩
    else { t with leading := none, sound := false }
  | none =>
    if isLeading n then { t with leading := some n }
    else if isTrailing n then { t with sound := false }
    else t.push (Char.ofNat n)

def finish (t : TextScan) : Option String :=
  if t.sound && t.leading.isNone then some (String.ofList t.done.reverse) else none

end TextScan

/-- What the reader is in the middle of. -/
inductive Mode
  | between
  | text (t : TextScan)
  | escape (t : TextScan)
  | hex (t : TextScan) (wanted value : Nat)
  | number (seen : List Char)
  | word (seen : List Char)
  deriving DecidableEq, Repr

/-- The tokens read so far, in reverse, and what is open. -/
structure Reader where
  tokens : List Token
  mode : Mode
  deriving DecidableEq, Repr

namespace Token

def isSpace (c : Char) : Bool := c == ' ' || c == '\t' || c == '\n' || c == '\r'

/-- Characters that occur in numbers. None of them can follow a number in a well-formed text, so a
number ends at the first other character. -/
def inNumber (c : Char) : Bool :=
  c.isDigit || c == '-' || c == '+' || c == '.' || c == 'e' || c == 'E'

def ofWord? : List Char → Option Token
  | ['n', 'u', 'l', 'l'] => some .null
  | ['t', 'r', 'u', 'e'] => some (.bool true)
  | ['f', 'a', 'l', 's', 'e'] => some (.bool false)
  | _ => none

def simpleEscape? : Char → Option Char
  | '"' => some '"'
  | '\\' => some '\\'
  | '/' => some '/'
  | 'b' => some '\x08'
  | 'f' => some '\x0C'
  | 'n' => some '\n'
  | 'r' => some '\r'
  | 't' => some '\t'
  | _ => none

end Token

namespace Reader

def start : Reader := ⟨[], .between⟩

def emit (tokens : List Token) (t : Token) : Option Reader := some ⟨t :: tokens, .between⟩

/-- A character outside of strings, numbers and words. -/
def stepBetween (tokens : List Token) (c : Char) : Option Reader :=
  match c with
  | '[' => emit tokens .beginArray
  | ']' => emit tokens .endArray
  | '{' => emit tokens .beginObject
  | '}' => emit tokens .endObject
  | ':' => emit tokens .colon
  | ',' => emit tokens .comma
  | '"' => some ⟨tokens, .text .start⟩
  | c =>
    if Token.isSpace c then some ⟨tokens, .between⟩
    else if c.isDigit || c == '-' then some ⟨tokens, .number [c]⟩
    else if c.isLower then some ⟨tokens, .word [c]⟩
    else none

def step (r : Reader) (c : Char) : Option Reader :=
  match r.mode with
  | .between => stepBetween r.tokens c
  | .text t =>
    if c = '"' then emit r.tokens (.text t.finish)
    else if c = '\\' then some ⟨r.tokens, .escape t⟩
    else if c.toNat < 0x20 then none
    else some ⟨r.tokens, .text (t.push c)⟩
  | .escape t =>
    if c = 'u' then some ⟨r.tokens, .hex t 4 0⟩
    else (Token.simpleEscape? c).map fun c => ⟨r.tokens, .text (t.push c)⟩
  | .hex t wanted value => do
    let d ← Text.hexDigit? c
    let n := value * 16 + d
    some ⟨r.tokens, if wanted ≤ 1 then .text (t.pushUnit n) else .hex t (wanted - 1) n⟩
  | .number seen =>
    if Token.inNumber c then some ⟨r.tokens, .number (c :: seen)⟩
    else do
      let l ← Literal.ofChars? seen.reverse
      stepBetween (.number l :: r.tokens) c
  | .word seen =>
    if c.isLower then some ⟨r.tokens, .word (c :: seen)⟩
    else do
      let t ← Token.ofWord? seen.reverse
      stepBetween (t :: r.tokens) c

def run (r : Reader) (cs : List Char) : Option Reader := cs.foldlM step r

@[simp] theorem run_nil (r : Reader) : run r [] = some r := rfl

@[simp] theorem run_cons (r : Reader) (c : Char) (cs : List Char) :
    run r (c :: cs) = (step r c).bind fun r' => run r' cs := rfl

theorem run_append (r : Reader) (as bs : List Char) :
    run r (as ++ bs) = (run r as).bind fun r' => run r' bs := by
  simp [run, List.foldlM_append]

/-- Closes a number or word at the end of the text; a string has to be closed already. -/
def finish? (r : Reader) : Option (List Token) :=
  match r.mode with
  | .between => some r.tokens.reverse
  | .number seen => (Literal.ofChars? seen.reverse).map fun l => (.number l :: r.tokens).reverse
  | .word seen => (Token.ofWord? seen.reverse).map fun t => (t :: r.tokens).reverse
  | .text _ | .escape _ | .hex _ _ _ => none

end Reader

/-- All tokens of a text. -/
def Token.scan? (cs : List Char) : Option (List Token) := (Reader.start.run cs).bind Reader.finish?

end AnswerStream.Json
