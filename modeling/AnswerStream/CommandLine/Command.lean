import AnswerStream.Thread.Basic

/-!
The command line. The first word decides: a listing of threads, the version, or a question made of
all words that are no flags. A listing takes pairs of a flag and its value, whatever the value looks
like.
-/

namespace AnswerStream
open Calendar (Date)

inductive Command
  | version
  | help
  | query (text : String) (deep : Bool)
  | threads (query : ThreadQuery)
  | invalid (reason : String)
  deriving DecidableEq, Repr

namespace Command

def isHelp (word : String) : Bool := word == "--help" || word == "-h"

def isDeep (word : String) : Bool := word == "--deep" || word == "-d"

/-- The bounds of a listing have to be in order. -/
def checkRange (q : ThreadQuery) : Command :=
  match q.first, q.last with
  | some first, some last =>
    if first.notAfter last then .threads q else .invalid "--from is after --to"
  | _, _ => .threads q

/-- Takes the value of a flag, or says what is wrong with it. -/
def setFlag (q : ThreadQuery) (flag value : String) : Except String ThreadQuery :=
  if flag = "--search" then .ok { q with searchTerm := some value }
  else
    match Date.parse? value with
    | none => .error s!"invalid date for {flag}: {value}"
    | some date =>
      if flag = "--from" then .ok { q with first := some date }
      else .ok { q with last := some date }

def takesValue (flag : String) : Bool := flag == "--from" || flag == "--to" || flag == "--search"

def parseThreads (q : ThreadQuery) : List String → Command
  | [] => checkRange q
  | [flag] =>
    if takesValue flag then .invalid s!"{flag} needs a value"
    else if isHelp flag then .help
    else .invalid s!"unknown argument: {flag}"
  | flag :: value :: rest =>
    if takesValue flag then
      match setFlag q flag value with
      | .ok q => parseThreads q rest
      | .error reason => .invalid reason
    else if isHelp flag then .help
    else .invalid s!"unknown argument: {flag}"

def parseQuestion (words : List String) : Command :=
  if words.any isHelp then .help
  else
    let text := String.intercalate " " (words.filter fun w => !isDeep w)
    if Text.isBlank text then .invalid "missing question" else .query text (words.any isDeep)

/-- Reads the words after the name of the program. -/
def parse : List String → Command
  | [] => .help
  | word :: rest =>
    if isHelp word then .help
    else if word = "--version" ∨ word = "-V" then .version
    else if word = "threads" ∨ word = "--threads" then parseThreads ⟨none, none, none⟩ rest
    else parseQuestion (word :: rest)

end Command
end AnswerStream
