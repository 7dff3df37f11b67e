import AnswerStream.Answer.Basic
import AnswerStream.CommandLine.Command

/-!
What the program prints: on its standard output the answer itself, beside it on its standard error
all that accompanies one.
-/

namespace AnswerStream

structure Output where
  stdout : String
  stderr : String
  deriving DecidableEq, Repr

namespace Output

def empty : Output := ⟨"", ""⟩

instance : Append Output := ⟨fun a b => ⟨a.stdout ++ b.stdout, a.stderr ++ b.stderr⟩⟩

def line (s : String) : Output := ⟨s ++ "\n", ""⟩

def aside (s : String) : Output := ⟨"", s ++ "\n"⟩

def concat (os : List Output) : Output :=
  ⟨String.join (os.map Output.stdout), String.join (os.map Output.stderr)⟩

end Output

namespace Report

def version : String := "perplexity-stream 0.1.0"

def usage : String := String.intercalate "\n"
  ["usage: perplexity-stream [--deep] <question...>",
    "       perplexity-stream --threads [--from YYYY-MM-DD] [--to YYYY-MM-DD] [--search TERM]",
    "       perplexity-stream --version | --help",
    "",
    "environment:",
    "  PERPLEXITY_TOKEN   session token sent as a bearer credential",
    "  RUST_LOG           log filter (default: warn)"]

/-- The exit code and the output of a command that needs no server. -/
def ofLocal? : Command → Option (Nat × Output)
  | .version => some (0, .line version)
  | .help => some (0, .line usage)
  | .invalid reason => some (2, .aside s!"error: {reason}\n\n{usage}")
  | .query _ _ | .threads _ => none

def ofReference (number : Nat) (r : Reference) : Output :=
  .line s!"  [{number}] {r.title} - {r.url}"

def ofReferences (rs : List Reference) : Output :=
  if rs.isEmpty then .empty
  else .line "\nReferences:" ++ .concat (rs.zipIdx.map fun p => ofReference (p.2 + 1) p.1)

def ofAnswer (a : Answer) : Output :=
  .line a.text ++ ofReferences a.references ++
    match a.threadSlug with
    | none => .empty
    | some slug => .aside s!"\nThread: {slug}"

def ofThread (t : ThreadRecord) : Output :=
  .line s!"{t.createdAt.renderMinute}  {t.title}  {t.url}"

def ofThreads (ts : List ThreadRecord) : Output :=
  .concat (ts.map ofThread) ++ .aside s!"{ts.length} threads"

/-- Right-aligned in three places. -/
def percentage (percent : Nat) : String :=
  let digits := toString percent
  String.ofList (List.replicate (3 - digits.length) ' ') ++ digits

def ofProgress (p : Progress) : Output :=
  let step := p.step.getD "Researching"
  .aside (match p.percent with
    | some percent => s!"[{percentage percent}%] {step}"
    | none => s!"[ .. ] {step}")

def ofPage (fetched total : Nat) : Output := .aside s!"Fetched {fetched}/{total} threads"

end Report
end AnswerStream
